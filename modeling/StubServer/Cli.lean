import StubServer.Cli.Arguments
import StubServer.Config.Example
import StubServer.Config.File
import StubServer.Server.Basic

/-! # Command line

What the program does for its arguments, up to the point where it would begin to listen.
-/

namespace StubServer.Cli

def versionText : String := "mock-endpoint-server 0.1.0\n"

def helpLines : List String := [
  "Programmable HTTP mock server - endpoint stubbing with match recording",
  "",
  "Usage: mock-endpoint-server [OPTIONS]",
  "",
  "Options:",
  "  -c, --config <CONFIG>        Path to configuration file [default: mock-server.yaml]",
  "  -l, --listen <ADDR>          Listen address, overrides settings.listen",
  "  -L, --log-level <LOG_LEVEL>  Log level (trace, debug, info, warn, error) [default: info]",
  "      --print-config           Print an example configuration and exit",
  "      --validate               Validate configuration and exit",
  "  -h, --help                   Print help",
  "  -V, --version                Print version"]

def helpText : String := String.join (helpLines.map fun line => line ++ "\n")

inductive Outcome where
  /-- The program ends with a code, its output and a complaint. -/
  | exit (code : Nat) (output complaint : String)
  /-- The program goes on to serve. -/
  | serve (server : Server)

def fail (complaint : String) : Outcome := .exit 1 "" ("Error: " ++ complaint ++ "\n")

/-- The configuration to work with.  Without a file there are no endpoints, but then there is
nothing to validate either. -/
def loadConfig (files : Files) (i : Invocation) : Except String Config :=
  if files.contains i.configPath then
    match Config.ofFile files i.configPath with
    | .ok config => .ok config
    | .error e => .error e.message
  else if i.validate then .error ("Configuration file not found: " ++ i.configPath)
  else .ok .default

def validText (s : Server) (config : Config) : String :=
  s!"Configuration is valid ({s.endpointIds.length} endpoints in {config.mocks.length} mocks)\n"

/-- The configuration with the address that the arguments give. -/
def listenOn (i : Invocation) (config : Config) : Config :=
  { config with settings := { config.settings with listen := i.listen.getD config.settings.listen } }

def invoke (files : Files) (i : Invocation) : Outcome :=
  if i.printConfig then .exit 0 (Config.exampleText ++ "\n") ""
  else
    match loadConfig files i with
    | .error complaint => fail complaint
    | .ok config =>
      match Server.ofConfig files (listenOn i config) 0 with
      | .error e => fail e.message
      | .ok server => if i.validate then .exit 0 (validText server config) "" else .serve server

def run (files : Files) (arguments : List String) : Outcome :=
  match Request.ofArguments arguments with
  | .error e => .exit 2 "" ("error: " ++ e.message ++ "\n")
  | .ok .help => .exit 0 helpText ""
  | .ok .version => .exit 0 versionText ""
  | .ok (.run i) => invoke files i

/-! ## Files to read -/

/-- The paths that a run looks at, as far as they follow from the files that are known. -/
def neededPaths (files : Files) (path : String) : List String :=
  path ::
    match files.readText path with
    | .error _ => []
    | .ok text =>
      match Config.ofYaml? text with
      | none => []
      | some config =>
        config.mockFiles.map (Files.join (Files.parent path)) ++
          match Config.merge files path config with
          | .error _ => []
          | .ok merged => merged.definitions.filterMap fun (_, d) =>
              d.response.bodyFile.map (TemplateSet.bodyPath merged.settings.bodyFilesDir)

end StubServer.Cli
