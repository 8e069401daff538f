import StubServer.Template.Layout

/-! # Reading templates

The texts and tags of a template are put together to its elements.  Every block is closed by the
name it was opened with.  The part of a block behind an `else` that opens a further block is a
template with that block as its one element, and the same tag closes both.
-/

namespace StubServer.Template

/-- What has been read of a template, and the items from the tag on that ended it. -/
abbrev ItemRead (α : Type) := Option (α × List Item)

/-- The name that has to close what a call opens. -/
def closingName? (call : Call) : Option String :=
  match call.head with
  | .word name => some name
  | .path path => some path.text
  | _ => none

/-- The call begins a line only if the white space before it is left alone. -/
def beginsLine (tag : MarkedTag) (standsAlone : Bool) : Bool := standsAlone && !tag.trimsBefore

def dropClose? (name? : Option String) : List Item → Option (List Item)
  | .tag placed _ _ :: rest =>
    match placed.tag.tag, name? with
    | .close closing, some name => if closing = name then some rest else none
    | _, _ => none
  | _ => none

def dropCloseRaw? (name? : Option String) : List Item → Option (List Item)
  | .tag placed _ _ :: rest =>
    match placed.tag.tag, name? with
    | .closeRaw closing, some name => if closing = name then some rest else none
    | _, _ => none
  | _ => none

abbrev PlacedElement := Option Position × Element

/-- The body of a raw block up to its closing tag. -/
def rawBody (name? : Option String) : List Item → ItemRead Tree
  | .text text :: rest =>
    (dropCloseRaw? name? rest).map fun rest => (.mk none [(none, .text text)], rest)
  | _ => none

mutual

/-- Reads elements up to a tag that belongs to an outer block, or to the end. -/
def readElements : Nat → List Item → ItemRead (List PlacedElement)
  | 0, _ => none
  | _ + 1, [] => some ([], [])
  | fuel + 1, .text text :: rest =>
    (readElements fuel rest).map fun (more, rest) => ((none, .text text) :: more, rest)
  | fuel + 1, items@(.tag placed standsAlone blanks :: rest) =>
    let begins := beginsLine placed.tag standsAlone
    let found? : Option (ItemRead (Option Element)) := match placed.tag.tag with
      | .comment => some (some (none, rest))
      | .output call => some (some (some (.output call), rest))
      | .decorator call => some (some (some (.decorator call none), rest))
      | .inclusion call =>
        some (some (some (.inclusion call blanks (begins && blanks.isNone) none), rest))
      | .openBlock call names =>
        some ((readBlock fuel (closingName? call) rest).map fun ((body, otherwise), rest) =>
          (some (.block call names begins body otherwise), rest))
      | .openRaw call names =>
        some ((rawBody (closingName? call) rest).map fun (body, rest) =>
          (some (.block call names begins body none), rest))
      | .openDecorator call =>
        some ((readBody fuel (closingName? call) rest).map fun (body, rest) =>
          (some (.decorator call (some body)), rest))
      | .openInclusion call =>
        some ((readBody fuel (closingName? call) rest).map fun (body, rest) =>
          (some (.inclusion call none begins (some body)), rest))
      | _ => none
    match found? with
    | none => some ([], items)
    | some none => none
    | some (some (element?, rest)) =>
      (readElements fuel rest).map fun (more, rest) =>
        (element?.toList.map (fun element => (some placed.position, element)) ++ more, rest)

/-- The two parts of a block behind its opening tag. -/
def readBlock : Nat → Option String → List Item → ItemRead (Tree × Option Tree)
  | 0, _, _ => none
  | fuel + 1, name?, items =>
    match readElements fuel items with
    | none => none
    | some (body, rest) =>
      match dropClose? name? rest with
      | some rest => some ((.mk none body, none), rest)
      | none =>
        match rest with
        | .tag placed standsAlone _ :: rest =>
          match placed.tag.tag with
          | .otherwise =>
            (readBody fuel name? rest).map fun (otherwise, rest) =>
              ((.mk none body, some otherwise), rest)
          | .otherwiseBlock call names =>
            (readBlock fuel name? rest).map fun ((inner, otherwise), rest) =>
              let block := Element.block call names (beginsLine placed.tag standsAlone) inner otherwise
              ((.mk none body, some (.mk none [(none, block)])), rest)
          | _ => none
        | _ => none

/-- A body that has one part only. -/
def readBody : Nat → Option String → List Item → ItemRead Tree
  | 0, _, _ => none
  | fuel + 1, name?, items =>
    match readElements fuel items with
    | none => none
    | some (body, rest) => (dropClose? name? rest).map fun rest => (.mk none body, rest)

end

def Tree.ofItems? (name : String) (items : List Item) : Option Tree :=
  match readElements (2 * items.length + 2) items with
  | some (elements, []) => some (.mk (some name) elements)
  | _ => none

/-- Reads a template and gives it a name. -/
def Tree.parse? (name text : String) : Option Tree :=
  (Pieces.read? text).bind fun pieces => Tree.ofItems? name pieces.layOut

end StubServer.Template
