import StubServer.Net.SocketAddress
import StubServer.Text.Blank
import StubServer.Text.Case

/-! # Command-line arguments

Arguments are read from left to right.  The first fault ends the reading, and so does a request
for the help or the version.  An option is given once at most; its value stands in the same
argument or is the next one, unless that looks like an option itself.
-/

namespace StubServer.Cli

inductive LogLevel where
  | error
  | warn
  | info
  | debug
  | trace
  deriving DecidableEq, Repr

/-- A level by its name in small or capital letters. -/
def LogLevel.ofName? (text : String) : Option LogLevel :=
  match Text.asciiLower text with
  | "error" => some .error
  | "warn" => some .warn
  | "info" => some .info
  | "debug" => some .debug
  | "trace" => some .trace
  | _ => none

/-- A level by its number, which may have a plus sign and zeros in front. -/
def LogLevel.ofNumber? (text : String) : Option LogLevel :=
  let digits := match text.toList with
    | '+' :: rest => rest
    | cs => cs
  if digits.isEmpty then none
  else
    match digits.dropWhile (· == '0') with
    | ['1'] => some .error
    | ['2'] => some .warn
    | ['3'] => some .info
    | ['4'] => some .debug
    | ['5'] => some .trace
    | _ => none

def LogLevel.read? (text : String) : Option LogLevel :=
  (LogLevel.ofNumber? text).or (LogLevel.ofName? text)

/-- What the arguments ask for, as far as they have been read. -/
structure Invocation where
  config : Option String
  listen : Option Net.SocketAddress
  logLevel : Option LogLevel
  printConfig : Bool
  validate : Bool
  deriving DecidableEq, Repr

namespace Invocation

def empty : Invocation := ⟨none, none, none, false, false⟩

def configPath (i : Invocation) : String := i.config.getD "mock-server.yaml"

end Invocation

/-- An option that is followed by a value. -/
inductive ValueOption where
  | config
  | listen
  | logLevel
  deriving DecidableEq, Repr

inductive Flag where
  | printConfig
  | validate
  deriving DecidableEq, Repr

/-- What a name behind one dash or two stands for. -/
inductive Name where
  | value (option : ValueOption)
  | flag (flag : Flag)
  | help
  | version
  deriving DecidableEq, Repr

def Name.ofLong? : String → Option Name
  | "config" => some (.value .config)
  | "listen" => some (.value .listen)
  | "log-level" => some (.value .logLevel)
  | "print-config" => some (.flag .printConfig)
  | "validate" => some (.flag .validate)
  | "help" => some .help
  | "version" => some .version
  | _ => none

def Name.ofShort? : Char → Option Name
  | 'c' => some (.value .config)
  | 'l' => some (.value .listen)
  | 'L' => some (.value .logLevel)
  | 'h' => some .help
  | 'V' => some .version
  | _ => none

inductive UsageError where
  | unexpected (argument : String)
  | missingValue (argument : String)
  | unneededValue (argument : String)
  | repeated (argument : String)
  | invalidValue (argument value : String)
  deriving DecidableEq, Repr

def UsageError.message : UsageError → String
  | .unexpected a => "unexpected argument '" ++ a ++ "' found"
  | .missingValue a => "a value is required for '" ++ a ++ "' but none was supplied"
  | .unneededValue a => "no value is expected for '" ++ a ++ "'"
  | .repeated a => "the argument '" ++ a ++ "' cannot be used multiple times"
  | .invalidValue a v => "invalid value '" ++ v ++ "' for '" ++ a ++ "'"

inductive Request where
  | help
  | version
  | run (invocation : Invocation)
  deriving DecidableEq, Repr

/-! ## Reading -/

def Invocation.setValue (i : Invocation) (argument value : String) :
    ValueOption → Except UsageError Invocation
  | .config =>
    if i.config.isSome then .error (.repeated argument)
    else if value.isEmpty then .error (.missingValue argument)
    else .ok { i with config := some value }
  | .listen =>
    if i.listen.isSome then .error (.repeated argument)
    else
      match Net.SocketAddress.read? value with
      | some address => .ok { i with listen := some address }
      | none => .error (.invalidValue argument value)
  | .logLevel =>
    if i.logLevel.isSome then .error (.repeated argument)
    else
      match LogLevel.read? value with
      | some level => .ok { i with logLevel := some level }
      | none => .error (.invalidValue argument value)

def Invocation.setFlag (i : Invocation) (argument : String) : Flag → Except UsageError Invocation
  | .printConfig =>
    if i.printConfig then .error (.repeated argument) else .ok { i with printConfig := true }
  | .validate =>
    if i.validate then .error (.repeated argument) else .ok { i with validate := true }

/-- The argument can be the value of the option before it. -/
def isValue (argument : String) : Bool :=
  match argument.toList with
  | '-' :: _ :: _ => false
  | _ => true

/-- A name in an argument, with the value that is attached to it. -/
structure Token where
  name : Name
  attached : Option String
  deriving DecidableEq, Repr

/-- Reads the argument of a long option, without its dashes. -/
def longToken? (cs : List Char) : Option Token :=
  match Text.splitOnce '=' cs with
  | some (name, value) => (Name.ofLong? (String.ofList name)).map (⟨·, some (String.ofList value)⟩)
  | none => (Name.ofLong? (String.ofList cs)).map (⟨·, none⟩)

/-- Reads the argument of a short option, without its dash. -/
def shortToken? : List Char → Option Token
  | [] => none
  | c :: rest =>
    let attached := match rest with
      | [] => none
      | '=' :: value => some (String.ofList value)
      | value => some (String.ofList value)
    (Name.ofShort? c).map fun name =>
      match name with
      | .help | .version => ⟨name, none⟩
      | _ => ⟨name, attached⟩

def token? (argument : String) : Option Token :=
  match argument.toList with
  | '-' :: '-' :: rest => longToken? rest
  | '-' :: rest => shortToken? rest
  | _ => none

/-- Reads the arguments behind those that led to `i`. -/
def readArguments (i : Invocation) : List String → Except UsageError Request
  | [] => .ok (.run i)
  | ["--"] => .ok (.run i)
  | argument :: rest =>
    match token? argument with
    | none => .error (.unexpected argument)
    | some ⟨.help, none⟩ => .ok .help
    | some ⟨.version, none⟩ => .ok .version
    | some ⟨.flag flag, none⟩ =>
      match i.setFlag argument flag with
      | .ok i => readArguments i rest
      | .error e => .error e
    | some ⟨.value option, some value⟩ =>
      match i.setValue argument value option with
      | .ok i => readArguments i rest
      | .error e => .error e
    | some ⟨.value option, none⟩ =>
      match rest with
      | [] => .error (.missingValue argument)
      | value :: rest =>
        if isValue value then
          match i.setValue argument value option with
          | .ok i => readArguments i rest
          | .error e => .error e
        else .error (.missingValue argument)
    | some ⟨_, some _⟩ => .error (.unneededValue argument)

def Request.ofArguments (arguments : List String) : Except UsageError Request :=
  readArguments .empty arguments

end StubServer.Cli
