import StubServer.Template.Frame
import StubServer.Time.Instant

/-! # The state of a rendering

Rendering changes stored documents, draws numbers, and keeps track of where in the template and in
the text written so far it is.  A failure ends it, but what it has done to the documents stays.
-/

namespace StubServer.Template

/-- What is known of the text written so far. -/
structure Progress where
  /-- Something has been written since the current part began. -/
  wrote : Bool
  endedLine : Bool
  /-- The next text begins a line that the blanks of an inclusion go in front of. -/
  blanksDue : Bool
  deriving Repr

structure Scope where
  /-- Innermost first. -/
  frames : List Frame
  /-- Bodies that the template itself has named. -/
  bodies : Table Tree
  /-- The bodies of inclusions, innermost first, and how many of them have been entered. -/
  enclosed : List Tree
  entered : Nat
  /-- The name of the template being rendered, when it is that of a whole text. -/
  current : Option String
  /-- Blanks in front of every line that an inclusion writes. -/
  blanks : Option String
  progress : Progress

def Scope.start : Scope := ⟨[Frame.root], [], [], 0, none, none, ⟨false, false, false⟩⟩

structure Session where
  store : DocumentStore
  /-- The source of drawn numbers. -/
  chance : Nat
  scope : Scope

/-- What does not change while a template is rendered. -/
structure Environment where
  data : Json
  endpointIds : List String
  templates : Table Tree
  now : Time.Instant

abbrev Run (α : Type) := ExceptT Failure (StateM Session) α

namespace Run

def fail {α : Type} (cause : Cause) : Run α := throw (Failure.ofCause cause)

def ofResult {α : Type} : Except Cause α → Run α
  | .ok a => pure a
  | .error cause => fail cause

def scope : Run Scope := do return (← get).scope

def setScope (scope : Scope) : Run Unit := modify fun s => { s with scope := scope }

def changeScope (f : Scope → Scope) : Run Unit := modify fun s => { s with scope := f s.scope }

def setProgress (progress : Progress) : Run Unit :=
  changeScope fun scope => { scope with progress := progress }

/-- A number below `bound`, or zero if there is none. -/
def draw (bound : Nat) : Run Nat := do
  let s ← get
  let next := (s.chance * 6364136223846793005 + 1442695040888963407) % 0x10000000000000000
  set { s with chance := next }
  return ((next >>> 16) <<< 24 + next % 0x1000000) % bound

/-- Asks something of the stored documents. -/
def documents (helper : String) (request : DocumentRequest) : Run (Option Json) := do
  let s ← get
  let (store, result) := s.store.run request
  set { s with store := store }
  match result with
  | .ok value => return value
  | .error cause => fail (.documents helper cause)

/-! ## Writing -/

def isLineEnd (c : Char) : Bool := c == '\n' || c == '\r'

/-- Puts blanks behind every end of a line but the last one. -/
def spread (blanks : List Char) : List Char → List Char
  | [] => []
  | [c] => [c]
  | c :: rest => if c = '\n' then c :: (blanks ++ spread blanks rest) else c :: spread blanks rest

/-- Writes a text with the blanks of the inclusion that it stands in. -/
def write (text : String) : Run String := do
  let cs := text.toList
  if cs.isEmpty then return ""
  let scope ← scope
  let endsLine := cs.getLast?.any isLineEnd
  setProgress ⟨true, endsLine, endsLine⟩
  match scope.blanks with
  | none => return text
  | some blanks =>
    let due := scope.progress.blanksDue && !cs.head?.any isLineEnd
    return (if due then blanks else "") ++ String.ofList (spread blanks.toList cs)

/-- Runs a part of a template; whether blanks are due behind it depends on what it has written. -/
def part (blanksDue : Progress → Bool) (run : Run String) : Run String := do
  let before := (← scope).progress
  setProgress { before with wrote := false, blanksDue := blanksDue before }
  let text ← run
  let after := (← scope).progress
  if after.wrote then setProgress { after with blanksDue := after.endedLine }
  else setProgress { after with wrote := before.wrote, blanksDue := before.blanksDue }
  return text

/-- Runs a body inside of a frame. -/
def inside (frame : Frame) (run : Run String) : Run String := do
  changeScope fun scope => { scope with frames := frame :: scope.frames }
  let text ← run
  changeScope fun scope => { scope with frames := scope.frames.drop 1 }
  return text

end Run

end StubServer.Template
