import StubServer.Template.Session
import StubServer.Template.Value
import StubServer.Text.Case
import StubServer.Time.Format

/-! # Helpers

A helper is a function that templates call by name.  Some give a value, others write a text; those
that run bodies, and what the tests do with a body, are left to the rendering of blocks.
-/

namespace StubServer.Template

/-- Tests of one or two values. -/
inductive Test where
  | equal
  | unequal
  | greater
  | greaterOrEqual
  | less
  | lessOrEqual
  | both
  | either
  | negation
  deriving DecidableEq, Repr

def Test.name : Test → String
  | .equal => "eq"
  | .unequal => "ne"
  | .greater => "gt"
  | .greaterOrEqual => "gte"
  | .less => "lt"
  | .lessOrEqual => "lte"
  | .both => "and"
  | .either => "or"
  | .negation => "not"

def Test.holds (test : Test) (x y : Json) : Bool :=
  match test with
  | .equal => x.same y
  | .unequal => !x.same y
  | .greater => order? x y == some .gt
  | .greaterOrEqual => (order? x y).any (· != .lt)
  | .less => order? x y == some .lt
  | .lessOrEqual => (order? x y).any (· != .gt)
  | .both => Template.holds false x && Template.holds false y
  | .either => Template.holds false x || Template.holds false y
  | .negation => !Template.holds false x

/-- Helpers that run their bodies. -/
inductive BlockHelper where
  | branch (wanted : Bool)
  | each
  | subject
  | raw
  deriving DecidableEq, Repr

/-- Helpers that ask something of the stored documents. -/
inductive StoreHelper where
  | get
  | put
  | add
  | remove
  | lookup
  deriving DecidableEq, Repr

def StoreHelper.name : StoreHelper → String
  | .get => "kv_get"
  | .put => "kv_put"
  | .add => "kv_add"
  | .remove => "kv_remove"
  | .lookup => "kv_lookup"

inductive Helper where
  | block (helper : BlockHelper)
  | test (test : Test)
  | store (helper : StoreHelper)
  | lookup
  | length
  | log
  | json
  | toJson
  | uuid
  | now
  | random
  | default
  | upper
  | lower
  | trim
  | replace
  | concat
  | add
  | subtract
  | base64Encode
  | base64Decode
  | endpointIds
  deriving DecidableEq, Repr

def Helper.ofName? (name : String) : Option Helper :=
  match name with
  | "if" => some (.block (.branch true))
  | "unless" => some (.block (.branch false))
  | "each" => some (.block .each)
  | "with" => some (.block .subject)
  | "raw" => some (.block .raw)
  | "eq" => some (.test .equal)
  | "ne" => some (.test .unequal)
  | "gt" => some (.test .greater)
  | "gte" => some (.test .greaterOrEqual)
  | "lt" => some (.test .less)
  | "lte" => some (.test .lessOrEqual)
  | "and" => some (.test .both)
  | "or" => some (.test .either)
  | "not" => some (.test .negation)
  | "kv_get" => some (.store .get)
  | "kv_put" => some (.store .put)
  | "kv_add" => some (.store .add)
  | "kv_remove" => some (.store .remove)
  | "kv_lookup" => some (.store .lookup)
  | "lookup" => some .lookup
  | "len" => some .length
  | "log" => some .log
  | "json" => some .json
  | "to_json" => some .toJson
  | "uuid" => some .uuid
  | "now" => some .now
  | "random" => some .random
  | "default" => some .default
  | "upper" => some .upper
  | "lower" => some .lower
  | "trim" => some .trim
  | "replace" => some .replace
  | "concat" => some .concat
  | "add_int" => some .add
  | "sub_int" => some .subtract
  | "b64enc" => some .base64Encode
  | "b64dec" => some .base64Decode
  | "endpoint_ids" => some .endpointIds
  | _ => none

/-- The operands of a call, evaluated. -/
structure Arguments where
  params : List Found
  named : Table Found

/-- What a helper gives: a value to go on with, or a text as it is. -/
inductive Product where
  | value (value : Json)
  | text (text : String)

def Product.json : Product → Json
  | .value j => j
  | .text t => .str t

namespace Arguments

def value? (args : Arguments) (i : Nat) : Option Json := (args.params[i]?).map Found.value

/-- A text operand, empty if there is none or it is no text. -/
def textOrEmpty (args : Arguments) (i : Nat) : String :=
  ((args.value? i).bind Json.asText?).getD ""

def int64? (args : Arguments) (i : Nat) : Option Int := (args.value? i).bind Json.asInt64?

def required (args : Arguments) (helper : String) (i : Nat) : Run Found :=
  match args.params[i]? with
  | some found => pure found
  | none => Run.fail (.operandMissing helper i)

def requiredNamed (args : Arguments) (helper name : String) (i : Nat) : Run Json :=
  match args.value? i with
  | some value => pure value
  | none => Run.fail (.namedOperandMissing helper name)

def requiredText (args : Arguments) (helper name : String) (i : Nat) : Run String := do
  match (← args.requiredNamed helper name i).asText? with
  | some text => return text
  | none => Run.fail (.operandMistyped helper name "str")

/-- An operand as a text: a text is itself, and any other value is written as JSON. -/
def written (args : Arguments) (helper : String) (i : Nat) : Run String :=
  match args.value? i with
  | some (.str text) => pure text
  | some value => pure value.compact
  | none => Run.fail (.textOperandMissing helper (i + 1))

def requiredInt (args : Arguments) (helper : String) (i : Nat) : Run Int :=
  match args.int64? i with
  | some n => pure n
  | none => Run.fail (.notAnInteger helper (i + 1))

end Arguments

/-! ## What the helpers do -/

/-- The operands of a test: the second is not looked at when one is enough. -/
def Test.run (test : Test) (args : Arguments) : Run Bool := do
  let x ← args.requiredNamed test.name "x" 0
  if test = .negation then return test.holds x .null
  let y ← args.requiredNamed test.name "y" 1
  return test.holds x y

/-- Asks the stored documents.  Reading gives null where nothing is found. -/
def StoreHelper.run (helper : StoreHelper) (args : Arguments) : Run Json := do
  let name := helper.name
  let key ← args.written name 0
  match helper with
  | .get => return (← Run.documents name (.get key)).getD .null
  | .put =>
    let value ← args.written name 1
    let _ ← Run.documents name (.put key value)
    return .str ""
  | .add =>
    let path ← args.written name 1
    let value ← args.written name 2
    let _ ← Run.documents name (.add key path value)
    return .str ""
  | .remove =>
    let path ← args.written name 1
    let _ ← Run.documents name (.remove key path)
    return .str ""
  | .lookup =>
    let expression ← args.written name 1
    return (← Run.documents name (.lookup key expression)).getD .null

/-- An item of a list by its index, or a member of an object by its name. -/
def itemAt (collection index : Json) : Json :=
  match collection with
  | .arr items => (index.asNat?.bind fun i => items[i]?).getD .null
  | .obj members => (index.asText?.bind (Table.get? members)).getD .null
  | _ => .null

/-- The number of items or members, or of the bytes of a text. -/
def lengthOf : Json → Nat
  | .arr items => items.length
  | .obj members => members.length
  | .str text => text.utf8ByteSize
  | _ => 0

def logLevels : List String := ["error", "warn", "info", "debug", "trace"]

/-- Nothing is written; but the level has to be one. -/
def checkLevel (args : Arguments) : Run Unit :=
  let level := ((Table.get? args.named "level").bind fun f => f.value.asText?).getD "info"
  if logLevels.contains (Text.asciiLower level) then pure () else Run.fail (.unknownLogLevel level)

/-- A text that is JSON is laid out over several lines. -/
def prettyText (text : String) : String :=
  match Json.parse? text with
  | some j => j.pretty
  | none => text

/-- The value, or the other one if it is null, empty text or missing. -/
def orDefault (value? : Option Json) (default : String) : String :=
  match value? with
  | none => default
  | some .null => default
  | some (.str text) => if text.isEmpty then default else text
  | some value => value.compact

def joined (values : List Json) : String :=
  String.join (values.map fun
    | .str text => text
    | .null => ""
    | value => value.compact)

def hexText (width n : Nat) : String :=
  let digits := Nat.toDigits 16 n
  String.ofList (List.replicate (width - digits.length) '0' ++ digits)

/-- A random identifier of version four. -/
def drawUuid : Run String := do
  let a ← Run.draw 0x100000000
  let b ← Run.draw 0x10000
  let c ← Run.draw 0x1000
  let d ← Run.draw 0x4000
  let e ← Run.draw 0x1000000
  let f ← Run.draw 0x1000000
  return hexText 8 a ++ "-" ++ hexText 4 b ++ "-4" ++ hexText 3 c ++ "-" ++
    hexText 4 (d + 0x8000) ++ "-" ++ hexText 12 (e <<< 24 + f)

def drawBetween (least greatest : Int) : Run String :=
  if greatest < least then Run.fail (.emptyRange least greatest)
  else do
    let n ← Run.draw (greatest - least + 1).toNat
    return toString (least + n)

def timestampFormat : String := "%Y-%m-%dT%H:%M:%S%.3fZ"

/-- A sum or difference, which has to fit 64 bits. -/
def arithmetic (args : Arguments) (helper sign : String) (f : Int → Int → Int) : Run String := do
  let a ← args.requiredInt helper 0
  let b ← args.requiredInt helper 1
  if Number.fitsSigned 64 (f a b) then return toString (f a b)
  else Run.fail (.overflow helper sign a b)

def decodeBase64 (text : String) : Run String :=
  match Text.Base64.decode text with
  | .ok bytes => pure (Text.Utf8.decodeLossy bytes)
  | .error cause => Run.fail (.encoding cause)

/-- The name that the checks of a block helper go by. -/
def BlockHelper.subjectName : BlockHelper → String
  | .branch _ => "if"
  | .each => "each"
  | .subject => "with"
  | .raw => "raw"

/-- Calls a helper without a body. -/
def Helper.call (helper : Helper) (env : Environment) (args : Arguments) : Run Product := do
  match helper with
  | .block .raw => return .text ""
  | .block b =>
    let _ ← args.required b.subjectName 0
    return .text ""
  | .test t => return .value (.bool (← t.run args))
  | .store s => return .value (← s.run args)
  | .lookup =>
    let collection ← args.required "lookup" 0
    let index ← args.required "lookup" 1
    return .value (itemAt collection.value index.value)
  | .length => return .value (.ofNat (lengthOf (← args.requiredNamed "len" "x" 0)))
  | .log =>
    checkLevel args
    return .text ""
  | .json => return .text (prettyText (args.textOrEmpty 0))
  | .toJson => return .text ((args.value? 0).getD .null).compact
  | .uuid => return .text (← drawUuid)
  | .now =>
    let format := ((args.value? 0).bind Json.asText?).getD timestampFormat
    return .text (env.now.format format)
  | .random => return .text (← drawBetween ((args.int64? 0).getD 0) ((args.int64? 1).getD 100))
  | .default => return .text (orDefault (args.value? 0) (args.textOrEmpty 1))
  | .upper => return .text (Text.upper (args.textOrEmpty 0))
  | .lower => return .text (Text.lower (args.textOrEmpty 0))
  | .trim => return .value (.str (Text.trim (← args.requiredText "trim" "s" 0)))
  | .replace =>
    let s ← args.requiredText "replace" "s" 0
    let old ← args.requiredText "replace" "from" 1
    let new ← args.requiredText "replace" "to" 2
    return .value (.str (String.ofList (Text.replaceAll old.toList new.toList s.toList)))
  | .concat => return .text (joined (args.params.map Found.value))
  | .add => return .text (← arithmetic args "add_int" "+" (· + ·))
  | .subtract => return .text (← arithmetic args "sub_int" "-" (· - ·))
  | .base64Encode =>
    return .value (.str (Text.Base64.encode (← args.requiredText "b64enc" "s" 0)))
  | .base64Decode => return .text (← decodeBase64 (args.textOrEmpty 0))
  | .endpointIds => return .value (.texts env.endpointIds)

end StubServer.Template
