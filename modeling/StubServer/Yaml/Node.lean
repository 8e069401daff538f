import StubServer.Table
import StubServer.Yaml.Tokens

/-! # Nodes of a YAML document

The tokens of a stream make up at most one document, which is a tree of scalars, sequences and
mappings.  An alias stands for the node that its anchor names; in the finished tree there are
none left.
-/

namespace StubServer.Yaml

inductive Node where
  | scalar (text : String) (style : Style) (tag : Option String)
  | sequence (tag : Option String) (items : List Node)
  | mapping (tag : Option String) (entries : List (Node × Node))
  | alias (anchor : Nat)
  deriving Repr, Inhabited

/-- An anchored node; of two with one number the one that began later counts. -/
structure Anchored where
  number : Nat
  start : Nat
  node : Node

/-- What has been learned about anchors. -/
structure Anchors where
  numbers : Table Nat
  started : Nat
  nodes : List Anchored

def Anchors.empty : Anchors := ⟨[], 0, []⟩

/-- Gives a name a number: how many names there are already. -/
def Anchors.declare (a : Anchors) (name : String) : Anchors × Nat × Nat :=
  let number := a.numbers.length
  ({ a with numbers := Table.insert a.numbers name number, started := a.started + 1 },
    number, a.started)

def Anchors.record (a : Anchors) (number start : Nat) (node : Node) : Anchors :=
  { a with nodes := ⟨number, start, node⟩ :: a.nodes }

def Anchors.find? (a : Anchors) (number : Nat) : Option Node :=
  let found := a.nodes.filter fun n => n.number == number
  (found.foldl (fun (best : Option Anchored) n =>
    match best with
    | none => some n
    | some b => if b.start < n.start then some n else some b) none).map (·.node)

/-- Tag handles with what they stand for. -/
abbrev TagHandles := Table String

def TagHandles.default : TagHandles := Table.ofList [("!", "!"), ("!!", "tag:yaml.org,2002:")]

def emptyScalar : Node := .scalar "" .plain none

/-- A result with what was learned about anchors and the tokens that are left. -/
abbrev Composed (α : Type) := Option (α × Anchors × List Token)

/-- The properties in front of a node, in either order: its anchor and its tag. -/
def properties (tokens : List Token) : Option String × Option (String × String) × List Token :=
  match tokens with
  | .anchor name :: .tag handle suffix :: rest => (some name, some (handle, suffix), rest)
  | .anchor name :: rest => (some name, none, rest)
  | .tag handle suffix :: .anchor name :: rest => (some name, some (handle, suffix), rest)
  | .tag handle suffix :: rest => (none, some (handle, suffix), rest)
  | rest => (none, none, rest)

/-- The tag in full; an unknown handle is an error. -/
def resolveTag (handles : TagHandles) : Option (String × String) → Option (Option String)
  | none => some none
  | some (handle, suffix) =>
    if handle.isEmpty then some (some suffix)
    else (Table.get? handles handle).map fun expansion => some (expansion ++ suffix)

def startsEmptyEntry : List Token → Bool
  | .blockEntry :: _ => true
  | .blockEnd :: _ => true
  | _ => false

def startsEmptyIndentless : List Token → Bool
  | .blockEntry :: _ => true
  | .key :: _ => true
  | .value :: _ => true
  | .blockEnd :: _ => true
  | _ => false

def startsEmptyBlockKey : List Token → Bool
  | .key :: _ => true
  | .value :: _ => true
  | .blockEnd :: _ => true
  | _ => false

def startsEmptyPairKey : List Token → Bool
  | .value :: _ => true
  | .flowEntry :: _ => true
  | .flowSequenceEnd :: _ => true
  | _ => false

def startsEmptyPairValue : List Token → Bool
  | .flowEntry :: _ => true
  | .flowSequenceEnd :: _ => true
  | _ => false

def startsEmptyFlowKey : List Token → Bool
  | .value :: _ => true
  | .flowEntry :: _ => true
  | .flowMappingEnd :: _ => true
  | _ => false

def startsEmptyFlowValue : List Token → Bool
  | .flowEntry :: _ => true
  | .flowMappingEnd :: _ => true
  | _ => false

/-- The separator before an entry of a bracketed collection; the first has none. -/
def dropSeparator (isFirst : Bool) : List Token → Option (List Token)
  | tokens@(.flowEntry :: rest) => if isFirst then some tokens else some rest
  | tokens => if isFirst then some tokens else none

mutual

/-- Composes one node.  `inBlock` admits block collections, and `indentless` a sequence whose
entries stand at the indentation of the mapping around it. -/
def node (handles : TagHandles) :
    Nat → (inBlock indentless : Bool) → Anchors → List Token → Composed Node
  | 0, _, _, _, _ => none
  | fuel + 1, inBlock, indentless, anchors, tokens =>
    match tokens with
    | .alias name :: rest =>
      (Table.get? anchors.numbers name).map fun number => (.alias number, anchors, rest)
    | _ =>
      let (anchor, shortTag, rest) := properties tokens
      match resolveTag handles shortTag with
      | none => none
      | some tag =>
        let (inner, place) :=
          match anchor with
          | some name =>
            let (inner, number, start) := anchors.declare name
            (inner, some (number, start))
          | none => (anchors, none)
        let finish : Composed Node → Composed Node := fun r => r.map fun (n, a, rest) =>
          (n, match place with
            | some (number, start) => a.record number start n
            | none => a, rest)
        match rest with
        | .scalar text style :: after =>
          let tag := if tag = some "!" then none else tag
          finish (some (.scalar text style tag, inner, after))
        | .flowSequenceStart :: after =>
          finish ((flowItems handles fuel true inner after).map fun (items, a, rest) =>
            (.sequence tag items, a, rest))
        | .flowMappingStart :: after =>
          finish ((flowEntries handles fuel true inner after).map fun (entries, a, rest) =>
            (.mapping tag entries, a, rest))
        | .blockEntry :: _ =>
          if indentless then
            finish ((indentlessItems handles fuel inner rest).map fun (items, a, rest) =>
              (.sequence tag items, a, rest))
          else if anchor.isSome || shortTag.isSome then
            finish (some (.scalar "" .plain tag, inner, rest))
          else none
        | .blockSequenceStart :: after =>
          if inBlock then
            finish ((blockItems handles fuel inner after).map fun (items, a, rest) =>
              (.sequence tag items, a, rest))
          else if anchor.isSome || shortTag.isSome then
            finish (some (.scalar "" .plain tag, inner, rest))
          else none
        | .blockMappingStart :: after =>
          if inBlock then
            finish ((blockEntries handles fuel inner after).map fun (entries, a, rest) =>
              (.mapping tag entries, a, rest))
          else if anchor.isSome || shortTag.isSome then
            finish (some (.scalar "" .plain tag, inner, rest))
          else none
        | _ =>
          if anchor.isSome || shortTag.isSome then
            finish (some (.scalar "" .plain tag, inner, rest))
          else none

/-- The items of a block sequence with its end. -/
def blockItems (handles : TagHandles) : Nat → Anchors → List Token → Composed (List Node)
  | 0, _, _ => none
  | fuel + 1, anchors, tokens =>
    match tokens with
    | .blockEntry :: rest =>
      let item :=
        if startsEmptyEntry rest then some (emptyScalar, anchors, rest)
        else node handles fuel true false anchors rest
      match item with
      | none => none
      | some (item, anchors, rest) =>
        (blockItems handles fuel anchors rest).map fun (items, a, rest) => (item :: items, a, rest)
    | .blockEnd :: rest => some ([], anchors, rest)
    | _ => none

/-- The items of a sequence that has no end of its own. -/
def indentlessItems (handles : TagHandles) : Nat → Anchors → List Token → Composed (List Node)
  | 0, _, _ => none
  | fuel + 1, anchors, tokens =>
    match tokens with
    | .blockEntry :: rest =>
      let item :=
        if startsEmptyIndentless rest then some (emptyScalar, anchors, rest)
        else node handles fuel true false anchors rest
      match item with
      | none => none
      | some (item, anchors, rest) =>
        (indentlessItems handles fuel anchors rest).map fun (items, a, rest) =>
          (item :: items, a, rest)
    | _ => some ([], anchors, tokens)

/-- The entries of a block mapping with its end. -/
def blockEntries (handles : TagHandles) : Nat → Anchors → List Token → Composed (List (Node × Node))
  | 0, _, _ => none
  | fuel + 1, anchors, tokens =>
    match tokens with
    | .key :: rest =>
      let key :=
        if startsEmptyBlockKey rest then some (emptyScalar, anchors, rest)
        else node handles fuel true true anchors rest
      match key with
      | none => none
      | some (key, anchors, rest) =>
        let value :=
          match rest with
          | .value :: rest =>
            if startsEmptyBlockKey rest then some (emptyScalar, anchors, rest)
            else node handles fuel true true anchors rest
          | _ => some (emptyScalar, anchors, rest)
        match value with
        | none => none
        | some (value, anchors, rest) =>
          (blockEntries handles fuel anchors rest).map fun (entries, a, rest) =>
            ((key, value) :: entries, a, rest)
    | .blockEnd :: rest => some ([], anchors, rest)
    | _ => none

/-- The items of a sequence in brackets with its end; a pair is a mapping of its own. -/
def flowItems (handles : TagHandles) : Nat → Bool → Anchors → List Token → Composed (List Node)
  | 0, _, _, _ => none
  | fuel + 1, isFirst, anchors, tokens =>
    match tokens with
    | .flowSequenceEnd :: rest => some ([], anchors, rest)
    | _ =>
      match dropSeparator isFirst tokens with
      | none => none
      | some tokens =>
        match tokens with
        | .flowSequenceEnd :: rest => some ([], anchors, rest)
        | .key :: rest =>
          let key :=
            if startsEmptyPairKey rest then some (emptyScalar, anchors, rest)
            else node handles fuel false false anchors rest
          match key with
          | none => none
          | some (key, anchors, rest) =>
            let value :=
              match rest with
              | .value :: rest =>
                if startsEmptyPairValue rest then some (emptyScalar, anchors, rest)
                else node handles fuel false false anchors rest
              | _ => some (emptyScalar, anchors, rest)
            match value with
            | none => none
            | some (value, anchors, rest) =>
              (flowItems handles fuel false anchors rest).map fun (items, a, rest) =>
                (.mapping none [(key, value)] :: items, a, rest)
        | _ =>
          match node handles fuel false false anchors tokens with
          | none => none
          | some (item, anchors, rest) =>
            (flowItems handles fuel false anchors rest).map fun (items, a, rest) =>
              (item :: items, a, rest)

/-- The entries of a mapping in braces with its end. -/
def flowEntries (handles : TagHandles) :
    Nat → Bool → Anchors → List Token → Composed (List (Node × Node))
  | 0, _, _, _ => none
  | fuel + 1, isFirst, anchors, tokens =>
    match tokens with
    | .flowMappingEnd :: rest => some ([], anchors, rest)
    | _ =>
      match dropSeparator isFirst tokens with
      | none => none
      | some tokens =>
        match tokens with
        | .flowMappingEnd :: rest => some ([], anchors, rest)
        | .key :: rest =>
          let key :=
            if startsEmptyFlowKey rest then some (emptyScalar, anchors, rest)
            else node handles fuel false false anchors rest
          match key with
          | none => none
          | some (key, anchors, rest) =>
            let value :=
              match rest with
              | .value :: rest =>
                if startsEmptyFlowValue rest then some (emptyScalar, anchors, rest)
                else node handles fuel false false anchors rest
              | _ => some (emptyScalar, anchors, rest)
            match value with
            | none => none
            | some (value, anchors, rest) =>
              (flowEntries handles fuel false anchors rest).map fun (entries, a, rest) =>
                ((key, value) :: entries, a, rest)
        | _ =>
          match node handles fuel false false anchors tokens with
          | none => none
          | some (key, anchors, rest) =>
            (flowEntries handles fuel false anchors rest).map fun (entries, a, rest) =>
              ((key, emptyScalar) :: entries, a, rest)

end

/-! ## Documents -/

/-- Reads directives up to the mark that a document begins; a version may be given once and each
handle once. -/
def directives (version : Bool) (declared : TagHandles) :
    List Token → Option (TagHandles × List Token)
  | .versionDirective major minor :: rest =>
    if version || major != 1 || (minor != 1 && minor != 2) then none
    else directives true declared rest
  | .tagDirective handle expansion :: rest =>
    if Table.contains declared handle then none
    else directives version (Table.insert declared handle expansion) rest
  | .documentStart :: rest => some (declared, rest)
  | _ => none

/-- Handles of directives take the place of the given ones. -/
def withDefaults (declared : TagHandles) : TagHandles :=
  declared.foldl (fun t row => Table.insert t row.1 row.2) TagHandles.default

/-- The document has no content. -/
def isBare : List Token → Bool
  | [] => true
  | .versionDirective .. :: _ => true
  | .tagDirective .. :: _ => true
  | .documentStart :: _ => true
  | .documentEnd :: _ => true
  | _ => false

/-- The root of the one document of a stream, or `none` inside when the stream has no document. -/
def compose (tokens : List Token) : Option (Option (Node × Anchors)) :=
  let fuel := 4 * tokens.length + 4
  let finish (r : Composed Node) : Option (Option (Node × Anchors)) :=
    match r with
    | none => none
    | some (root, anchors, rest) =>
      if (rest.dropWhile (· == .documentEnd)).isEmpty then some (some (root, anchors)) else none
  match tokens with
  | [] => some none
  | .versionDirective .. :: _ => explicit fuel finish
  | .tagDirective .. :: _ => explicit fuel finish
  | .documentStart :: _ => explicit fuel finish
  | _ => finish (node TagHandles.default fuel true false Anchors.empty tokens)
where
  explicit (fuel : Nat) (finish : Composed Node → Option (Option (Node × Anchors))) :
      Option (Option (Node × Anchors)) :=
    match directives false [] tokens with
    | none => none
    | some (declared, rest) =>
      if isBare rest then finish (some (emptyScalar, Anchors.empty, rest))
      else finish (node (withDefaults declared) fuel true false Anchors.empty rest)

mutual

/-- How many steps it takes to read a node once, without what its aliases stand for. -/
def weight : Node → Nat
  | .scalar .. => 1
  | .alias _ => 1
  | .sequence _ items => 2 + weightItems items
  | .mapping _ entries => 2 + weightEntries entries

def weightItems : List Node → Nat
  | [] => 0
  | x :: xs => weight x + weightItems xs

def weightEntries : List (Node × Node) → Nat
  | [] => 0
  | (k, v) :: rest => weight k + weight v + weightEntries rest

end

mutual

/-- Puts in the nodes that aliases stand for.  Collections nest at most `depth` deep, and at most
`jumps` aliases are followed. -/
def expand (anchors : Anchors) (jumps : Nat) : Nat → Nat → Node → Option (Node × Nat)
  | 0, _, _ => none
  | fuel + 1, depth, n =>
    match n with
    | .scalar text style tag => some (.scalar text style tag, jumps)
    | .alias number =>
      match jumps with
      | 0 => none
      | jumps + 1 => (anchors.find? number).bind fun n => expand anchors jumps fuel depth n
    | .sequence tag items =>
      match depth with
      | 0 => none
      | depth + 1 => (expandItems anchors jumps fuel depth items).map fun (items, left) =>
        (.sequence tag items, left)
    | .mapping tag entries =>
      match depth with
      | 0 => none
      | depth + 1 => (expandEntries anchors jumps fuel depth entries).map fun (entries, left) =>
        (.mapping tag entries, left)

def expandItems (anchors : Anchors) (jumps : Nat) :
    Nat → Nat → List Node → Option (List Node × Nat)
  | 0, _, _ => none
  | _ + 1, _, [] => some ([], jumps)
  | fuel + 1, depth, x :: xs =>
    match expand anchors jumps fuel depth x with
    | none => none
    | some (x, jumps) => (expandItems anchors jumps fuel depth xs).map fun (xs, left) => (x :: xs, left)

def expandEntries (anchors : Anchors) (jumps : Nat) :
    Nat → Nat → List (Node × Node) → Option (List (Node × Node) × Nat)
  | 0, _, _ => none
  | _ + 1, _, [] => some ([], jumps)
  | fuel + 1, depth, (k, v) :: rest =>
    match expand anchors jumps fuel depth k with
    | none => none
    | some (k, jumps) =>
      match expand anchors jumps fuel depth v with
      | none => none
      | some (v, jumps) =>
        (expandEntries anchors jumps fuel depth rest).map fun (rest, left) => ((k, v) :: rest, left)

end

/-- The document of a stream without aliases, or `none` inside when there is no document. -/
def parse? (text : String) : Option (Option Node) :=
  match tokens? text with
  | none => none
  | some tokens =>
    match compose tokens with
    | none => none
    | some none => some none
    | some (some (root, anchors)) =>
      let jumps := 100 * (weight root + 4)
      let size := weight root
      (expand anchors jumps (256 * (size + 1) + 2 * jumps + 4) 128 root).map fun (root, _) =>
        some root

end StubServer.Yaml
