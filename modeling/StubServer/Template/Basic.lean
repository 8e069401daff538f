import StubServer.Json.Basic

/-! # Templates

A template is text with tags in it.  A tag shows a value, calls a helper, opens and closes a
block, includes another template, or gives the body of a block a name under which it can be
included.  The types of this module are what is left of a template once its tags are read and the
white space around them is settled.
-/

namespace StubServer.Template

/-- One step of a path. -/
inductive PathStep where
  /-- Out of the block. -/
  | up
  /-- To the root of the data. -/
  | root
  /-- To the variables that a block sets. -/
  | marker
  | member (name : String)
  deriving DecidableEq, Repr

structure Path where
  /-- As written. -/
  text : String
  steps : List PathStep
  deriving DecidableEq, Repr

/-- What a tag is made of. -/
inductive Expr where
  | constant (value : Json)
  | path (path : Path)
  /-- A bare name in front of operands. -/
  | word (text : String)
  | call (head : Expr) (params : List Expr) (named : List (String × Expr))
  deriving Repr, Inhabited

/-- A name with its operands, some of them by position and some by name. -/
structure Call where
  head : Expr
  params : List Expr
  named : List (String × Expr)
  deriving Repr, Inhabited

/-- Where something stands in a text, counted from one. -/
structure Position where
  line : Nat
  column : Nat
  deriving DecidableEq, Repr

/-- Whether the first line that comes out of a part begins a line of its own. -/
abbrev BeginsLine := Bool

mutual

inductive Element where
  | text (text : String)
  | output (call : Call)
  /-- The names are those under which the body sees what the block runs over. -/
  | block (call : Call) (names : List String) (beginsLine : BeginsLine) (body : Tree)
      (otherwise : Option Tree)
  | decorator (call : Call) (body : Option Tree)
  /-- The blanks are put in front of every further line of what is included. -/
  | inclusion (call : Call) (blanks : Option String) (beginsLine : BeginsLine)
      (body : Option Tree)

/-- The parts of a template, each with its place in the text; only the template of a whole text
has a name. -/
inductive Tree where
  | mk (name : Option String) (elements : List (Option Position × Element))

end

namespace Tree

def name? : Tree → Option String
  | .mk name _ => name

def elements : Tree → List (Option Position × Element)
  | .mk _ elements => elements

end Tree

instance : Inhabited Tree := ⟨.mk none []⟩

end StubServer.Template
