import StubServer.Documents
import StubServer.Template.Basic
import StubServer.Text.Base64

/-! # Failures of rendering

Why a template could not be rendered, and the text that says so together with the place in it.
-/

namespace StubServer.Template

inductive Cause where
  | helperNotFound (name : String)
  | decoratorNotFound (name : String)
  | inclusionNotFound (name : String)
  | inclusionOfItself
  /-- The position counts from zero. -/
  | operandMissing (helper : String) (position : Nat)
  | namedOperandMissing (helper name : String)
  | operandMistyped (helper name type : String)
  | nameNotText
  | bodyMissing
  | notAnIndex (text : String)
  | unknownLogLevel (level : String)
  /-- The position counts from one. -/
  | textOperandMissing (helper : String) (position : Nat)
  | notAnInteger (helper : String) (position : Nat)
  | overflow (helper sign : String) (left right : Int)
  | emptyRange (least greatest : Int)
  | encoding (cause : Text.Base64.DecodeError)
  | documents (helper : String) (cause : DocumentError)
  | tooDeep
  deriving Repr

def Cause.message : Cause → String
  | .helperNotFound name => "Helper not found " ++ name
  | .decoratorNotFound name => "Decorator not found " ++ name
  | .inclusionNotFound name => "Partial not found " ++ name
  | .inclusionOfItself => "Cannot include self in >"
  | .operandMissing helper position =>
    "Helper/Decorator " ++ helper ++ " param at index " ++ toString position ++
      " required but not found"
  | .namedOperandMissing helper name =>
    "Helper/Decorator " ++ helper ++ " param with name " ++ name ++ " required but not found"
  | .operandMistyped helper name type =>
    "Helper/Decorator " ++ helper ++ " param with name " ++ name ++ " type mismatch for " ++ type
  | .nameNotText => "Invalid param type, String expected"
  | .bodyMissing => "Block content required"
  | .notAnIndex text => "Cannot access array/vector with string index, " ++ text
  | .unknownLogLevel level => "Invalid logging level: " ++ level
  | .textOperandMissing helper position => helper ++ ": missing parameter " ++ toString position
  | .notAnInteger helper position =>
    helper ++ ": parameter " ++ toString position ++ " must be an integer"
  | .overflow helper sign left right =>
    helper ++ ": " ++ toString left ++ " " ++ sign ++ " " ++ toString right ++ " overflows"
  | .emptyRange least greatest => "random: " ++ toString least ++ " > " ++ toString greatest
  | .encoding cause => "b64dec: " ++ cause.message
  | .documents helper cause => helper ++ ": " ++ cause.message
  | .tooDeep => "templates are nested too deep"

/-- A failure takes the innermost place and name that are known where it arises. -/
structure Failure where
  cause : Cause
  position : Option Position
  template : Option String
  deriving Repr

namespace Failure

def ofCause (cause : Cause) : Failure := ⟨cause, none, none⟩

/-- Adds the place and the name of a template that the failure passes through. -/
def within (place : Option Position) (name : Option String) (f : Failure) : Failure :=
  ⟨f.cause, f.position.or place, f.template.or name⟩

def message (f : Failure) : String :=
  match f.position with
  | none => f.cause.message
  | some p =>
    "Error rendering \"" ++ f.template.getD "Unnamed template" ++ "\" line " ++ toString p.line ++
      ", col " ++ toString p.column ++ ": " ++ f.cause.message

end Failure

end StubServer.Template
