import StubServer.Json.Pointer
import StubServer.Template.Failure

/-! # What names mean

A block sets up a frame for its body: the value that paths begin at, names for it, and variables.
A path is followed through the frames to a value.  Values that lie in the data remember where, so
that a frame can point there instead of holding a copy.
-/

namespace StubServer.Template

/-- What the name of a block stands for. -/
inductive Binding where
  /-- The value that the block's own paths begin at. -/
  | subject
  | value (value : Json)
  deriving Repr

structure Frame where
  /-- The place in the data that paths begin at, unless a value is given. -/
  place : List String
  value : Option Json
  names : Table Binding
  locals : Table Json
  deriving Repr, Inhabited

def Frame.root : Frame := ⟨[], none, [], []⟩

/-- A value found in an expression.  There may be none; one that lies in the data has a place. -/
structure Found where
  value? : Option Json
  place? : Option (List String)
  deriving Repr

namespace Found

def nothing : Found := ⟨none, none⟩

/-- A value that does not lie in the data. -/
def ofValue (value : Json) : Found := ⟨some value, none⟩

/-- The value, null if there is none. -/
def value (f : Found) : Json := f.value?.getD .null

/-- A frame whose paths begin at the value. -/
def frame (f : Found) : Frame :=
  match f.place? with
  | some place => { Frame.root with place := place }
  | none => { Frame.root with value := some f.value }

end Found

/-- Where a path leads: into the data, or into a value that is none of it. -/
inductive Origin where
  | place (names : List String)
  | value (value : Json) (names : List String)

def memberNames (steps : List PathStep) : List String :=
  steps.filterMap fun
    | .member name => some name
    | _ => none

/-- The innermost frame that binds a name, with what it binds it to. -/
def findBinding? (name : String) : List Frame → Option (Frame × Binding)
  | [] => none
  | f :: rest =>
    match Table.get? f.names name with
    | some binding => some (f, binding)
    | none => findBinding? name rest

def Frame.origin (f : Frame) (names : List String) : Origin :=
  match f.value with
  | some value => .value value names
  | none => .place (f.place ++ names)

/-- The frame that a number of steps out of blocks leads to; beyond the outermost one the
innermost counts. -/
def frameAt (up : Nat) (frames : List Frame) : Frame :=
  (frames[up]?).getD (frames.headD Frame.root)

/-- Where a path leads that is no variable.  Its first name may be one that a block has given. -/
def originOf (frames : List Frame) (steps : List PathStep) : Origin :=
  let up := (steps.takeWhile (· == .up)).length
  match steps.drop up with
  | .root :: _ => .place (memberNames steps)
  | .member name :: rest =>
    match findBinding? name frames with
    | some (f, .subject) => .place (f.place ++ memberNames rest)
    | some (_, .value value) => .value value (memberNames rest)
    | none => (frameAt up frames).origin (memberNames steps)
  | _ => (frameAt up frames).origin (memberNames steps)

/-- The variable that a path names, with the number of frames to leave for it. -/
def variableRef? : List PathStep → Option (Nat × String)
  | .marker :: rest =>
    match rest.dropWhile (· == .up) with
    | .member name :: _ => some ((rest.takeWhile (· == .up)).length, name)
    | _ => none
  | _ => none

/-- Follows names into a value.  The items of a list have their indices for names. -/
def follow (value : Json) : List String → Except Cause (Option Json)
  | [] => .ok (some value)
  | name :: rest =>
    match value with
    | .arr items =>
      match Json.editIndex? name with
      | none => .error (.notAnIndex name)
      | some i =>
        match items[i]? with
        | some item => follow item rest
        | none => .ok none
    | .obj members =>
      match Table.get? members name with
      | some member => follow member rest
      | none => .ok none
    | _ => .ok none

/-- The value of a path. -/
def Path.find (p : Path) (data : Json) (frames : List Frame) : Except Cause Found :=
  match variableRef? p.steps with
  | some (up, name) =>
    .ok ⟨(frames[up]?).bind fun f => Table.get? f.locals name, none⟩
  | none =>
    match originOf frames p.steps with
    | .place names => (follow data names).map fun v => ⟨v, v.map fun _ => names⟩
    | .value value names => (follow value names).map fun v => ⟨v, none⟩

end StubServer.Template
