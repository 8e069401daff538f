import StubServer.Json.Basic
import StubServer.Regex.Parser

/-! # Path expressions

A path expression picks values out of a JSON value: steps lead from values to further values, and
a filter keeps the items for which a condition holds.
-/

namespace StubServer.Json.Path

/-- How two operands of a condition are compared. -/
inductive Relation where
  | equal
  | unequal
  | matching
  | greaterOrEqual
  | greater
  | lessOrEqual
  | less
  | isIn
  | notIn
  | size
  | noneOf
  | anyOf
  | subsetOf
  /-- The left operand is there; there is no right one. -/
  | present
  deriving DecidableEq, Repr

mutual

inductive Step where
  | root
  | field (name : String)
  | wildcard
  /-- A field of the value and of all values below it. -/
  | descent (name : String)
  /-- All values below. -/
  | descendants
  /-- The value that a filter looks at, and steps from it. -/
  | current (steps : List Step)
  | item (index : Option Nat)
  | items (indices : List JsonNumber)
  | fields (names : List String)
  | slice (first last : Int) (stride : Nat)
  | filter (condition : Condition)
  /-- The length of a list, or the number of values found. -/
  | length

inductive Condition where
  | compare (left : Operand) (relation : Relation) (right : Operand)
  | both (left right : Condition)
  | either (left right : Condition)
  | negation (condition : Condition)

inductive Operand where
  | constant (value : Json)
  | found (steps : List Step)

end

instance : Inhabited Step := ⟨.root⟩
instance : Inhabited Operand := ⟨.constant .null⟩
instance : Inhabited Condition := ⟨.compare default .present default⟩

/-! ## Values on the way -/

/-- What a step leads to: a part of the document, a value that was computed, or nothing. -/
inductive Found where
  | part (value : Json)
  | computed (value : Json)
  | nothing

def Found.value? : Found → Option Json
  | .part v => some v
  | .computed v => some v
  | .nothing => none

/-- The parts of the document; conditions look at nothing else. -/
def parts (found : List Found) : List Json :=
  found.filterMap fun
    | .part v => some v
    | _ => none

def orNothing (found : List Found) : List Found := if found.isEmpty then [.nothing] else found

/-- Applies a step to a part; from anything else it leads to nothing. -/
def fromPart (step : Json → List Found) : Found → List Found
  | .part v => step v
  | _ => [.nothing]

def fieldOf (name : String) : Json → List Found
  | .obj members =>
    match Table.get? members name with
    | some v => [.part v]
    | none => [.nothing]
  | _ => [.nothing]

def childrenOf : Json → List Json
  | .arr items => items
  | .obj members => members.map (·.2)
  | _ => []

mutual

/-- The values of a field in a value and below it, those further up first. -/
def descentOf (name : String) : Json → List Json
  | .obj members => ((Table.get? members name).toList) ++ descentMembers name members
  | .arr items => descentItems name items
  | _ => []

def descentItems (name : String) : List Json → List Json
  | [] => []
  | x :: xs => descentOf name x ++ descentItems name xs

def descentMembers (name : String) : List (String × Json) → List Json
  | [] => []
  | (_, x) :: xs => descentOf name x ++ descentMembers name xs

end

mutual

/-- All values below a value, each before those below it. -/
def below : Json → List Json
  | .obj members => belowMembers members
  | .arr items => belowItems items
  | _ => []

def belowItems : List Json → List Json
  | [] => []
  | x :: xs => x :: below x ++ belowItems xs

def belowMembers : List (String × Json) → List Json
  | [] => []
  | (_, x) :: xs => x :: below x ++ belowMembers xs

end

def itemOf (index : Option Nat) : Json → List Found
  | .arr items =>
    match index.bind fun i => items[i]? with
    | some v => [.part v]
    | none => [.nothing]
  | _ => [.nothing]

def indexOf : JsonNumber → Option Nat
  | .int n => if 0 ≤ n then some n.toNat else none
  | .float _ => none

/-- An end of a slice as an index; a negative one counts from behind. -/
def sliceEnd (length : Nat) (n : Int) : Option Nat :=
  if 0 ≤ n then (if n ≤ length then some n.toNat else none)
  else if n < -(length : Int) then none
  else some (length - n.natAbs)

/-- Every `stride`-th item; the number counts those to pass over first. -/
def everyNth (stride : Nat) : Nat → List Json → List Json
  | _, [] => []
  | 0, x :: xs => x :: everyNth stride (stride - 1) xs
  | skip + 1, _ :: xs => everyNth stride skip xs

def sliceOf (first last : Int) (stride : Nat) : Json → List Found
  | .arr items =>
    match sliceEnd items.length first, sliceEnd items.length last with
    | some first, some last =>
      let last := if last = 0 then items.length else last
      orNothing ((everyNth stride 0 ((items.take last).drop first)).map .part)
    | _, _ => [.nothing]
  | _ => [.nothing]

/-! ## Comparison -/

def allSame : List Json → List Json → Bool
  | [], [] => true
  | x :: xs, y :: ys => x.same y && allSame xs ys
  | _, _ => false

def less (left right : List Json) : Bool :=
  match left, right with
  | [.num a], [.num b] => a.toDouble.less b.toDouble
  | _, _ => false

def isIn (left right : List Json) : Bool :=
  match right.head? with
  | some (.arr items) => left.any fun x => items.any x.same
  | some (.obj members) => left.any fun x => members.any fun m => x.same m.2
  | _ => false

def matchesAny (left right : List Json) : Bool :=
  match right.head? with
  | some (.str pattern) =>
    match Regex.parse? pattern with
    | some regex => left.any fun
      | .str s => regex.matchesBytes (Text.Utf8.encode s)
      | _ => false
    | none => false
  | _ => false

def anyOf (left right : List Json) : Bool :=
  if left.isEmpty then true
  else
    match right.head? with
    | some (.arr items) => left.any fun
      | .arr xs => xs.any fun x => items.any x.same
      | x => items.any x.same
    | _ => false

def subsetOf (left right : List Json) : Bool :=
  if left.isEmpty then true
  else
    match left.head?, right.head? with
    | some (.arr xs), some (.arr items) =>
      !items.isEmpty && xs.all fun x => items.any x.same
    | _, _ => false

/-- The number without its fraction; nothing below zero. -/
def sizeNumber (n : JsonNumber) : Nat :=
  match n.toDouble with
  | .finite false m e => if 0 ≤ e then m <<< e.toNat else m >>> (-e).toNat
  | _ => 0

def hasSize (left right : List Json) : Bool :=
  match right.head? with
  | some (.num n) => left.all fun
    | .str s => s.utf8ByteSize == sizeNumber n
    | .arr items => items.length == sizeNumber n
    | .obj members => members.length == sizeNumber n
    | _ => false
  | _ => false

def holds (relation : Relation) (left right : List Json) : Bool :=
  match relation with
  | .equal => allSame left right
  | .unequal => !allSame left right
  | .less => less left right
  | .lessOrEqual => less left right || allSame left right
  | .greater => less right left
  | .greaterOrEqual => less right left || allSame left right
  | .matching => matchesAny left right
  | .isIn => isIn left right
  | .notIn => !isIn left right
  | .anyOf => anyOf left right
  | .noneOf => !anyOf left right
  | .subsetOf => subsetOf left right
  | .size => hasSize left right
  | .present => !left.isEmpty

/-! ## Evaluation -/

/-- Whether a length counts the values found, going by the steps before it. -/
def countsFound (counts : Bool) : List Step → Bool
  | [] => counts
  | .item _ :: rest => countsFound false rest
  | .items _ :: rest => countsFound true rest
  | .fields _ :: rest => countsFound true rest
  | .slice .. :: rest => countsFound true rest
  | .filter _ :: rest => countsFound true rest
  | .wildcard :: rest => countsFound true rest
  | _ :: rest => countsFound counts rest

def lengthOf : Found → Found
  | .part (.arr items) => .computed (.ofNat items.length)
  | .computed (.arr items) => .computed (.ofNat items.length)
  | _ => .nothing

def lengthStep (counts : Bool) (found : List Found) : List Found :=
  let values := found.filterMap Found.value?
  if !found.isEmpty && values.isEmpty then [.nothing]
  else if counts then [.computed (.ofNat values.length)]
  else
    match found.head? with
    | some f => [lengthOf f]
    | none => [.nothing]

/-- A filter keeps the items of a list that pass, or any other value if it passes itself. -/
def keep (passes : Json → Bool) : Json → List Found
  | .arr items => orNothing ((items.filter passes).map .part)
  | v => if passes v then [.part v] else [.nothing]

mutual

def runSteps (root : Json) (counts : Bool) : List Step → List Found → List Found
  | [], found => found
  | step :: rest, found => runSteps root counts rest (runStep root counts step found)

def runStep (root : Json) (counts : Bool) : Step → List Found → List Found
  | .root, found => found.map fun _ => .part root
  | .field name, found => found.flatMap (fromPart (fieldOf name))
  | .wildcard, found => found.flatMap (fromPart fun v => orNothing ((childrenOf v).map .part))
  | .descent name, found => found.flatMap (fromPart fun v => orNothing ((descentOf name v).map .part))
  | .descendants, found => found.flatMap (fromPart fun v => orNothing ((below v).map .part))
  | .current steps, found =>
    found.flatMap fun f => runSteps root (steps.length > 2 && countsFound false steps) steps [f]
  | .item index, found => found.flatMap (fromPart (itemOf index))
  | .items indices, found =>
    found.flatMap (fromPart fun v => indices.flatMap fun i => itemOf (indexOf i) v)
  | .fields names, found => found.flatMap (fromPart fun v => names.flatMap fun n => fieldOf n v)
  | .slice first last stride, found => found.flatMap (fromPart (sliceOf first last stride))
  | .filter condition, found => found.flatMap (fromPart (keep (passes root condition)))
  | .length, found => lengthStep counts found

/-- The condition of a filter for one value.  The parts of a compound condition are filters of
their own, which look into lists again. -/
def passes (root : Json) : Condition → Json → Bool
  | .compare left relation right, v =>
    holds relation (parts (operand root left v)) (parts (operand root right v))
  | .both a b, v =>
    !(parts (keep (passes root a) v)).isEmpty && !(parts (keep (passes root b) v)).isEmpty
  | .either a b, v =>
    !(parts (keep (passes root a) v)).isEmpty || !(parts (keep (passes root b) v)).isEmpty
  | .negation a, v => (parts (keep (passes root a) v)).isEmpty

def operand (root : Json) : Operand → Json → List Found
  | .constant value, _ => [.part value]
  | .found steps, v => runSteps root (steps.length > 2 && countsFound false steps) steps [.part v]

end

/-- What the steps pick out of a document: one value as it is, several as a list. -/
def select (steps : List Step) (document : Json) : Option Json :=
  let counts := steps.length > 2 && countsFound false steps
  match (runSteps document counts steps [.part document]).filterMap Found.value? with
  | [] => none
  | [value] => some value
  | values => some (.arr values)

end StubServer.Json.Path
