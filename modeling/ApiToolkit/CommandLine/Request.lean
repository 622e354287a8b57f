import ApiToolkit.CommandLine.Flag
import ApiToolkit.Service.Config
import ApiToolkit.Service.Output
/-!
# Requests on the command line

## What is inside

- `GenerateRequest`, `InferRequest`, `Request`: what the program is asked for.
- `Request.read`: reads the arguments of the program.
- `helpText`, `versionText`: what is printed instead.
-/

namespace ApiToolkit.CommandLine

/-- A request for declarations. -/
structure GenerateRequest where
  /-- The configuration file. -/
  config : String
  /-- The file or directory to write. -/
  definition : String
  /-- The directory that relative paths are seen from. -/
  cwd : String
  /-- The command line of the compiler. -/
  compiler : String
deriving DecidableEq, Repr

/-- A request for the type of samples. -/
structure InferRequest where
  /-- The files. -/
  files : List String
  /-- The name of the exported type. -/
  typeName : String
  /-- Whether properties are required. -/
  strict : Bool
  /-- Whether the files hold JSON Schema documents. -/
  fromSchema : Bool
  /-- Whether JSON Schema is printed. -/
  jsonSchema : Bool
deriving DecidableEq, Repr

/-- What the program is asked for. -/
inductive Request where
  | generate (request : GenerateRequest)
  | infer (request : InferRequest)
deriving DecidableEq, Repr

/-! ## Flags -/

/-- The flags of every command. -/
def commonFlags : List Flag :=
  [⟨"verbose", some 'v', .counter⟩, ⟨"help", some 'h', .help⟩]

/-- The flags before the command. -/
def rootFlags : List Flag := ⟨"version", some 'V', .version⟩ :: commonFlags

/-- The flags of `generate`. -/
def generateFlags : List Flag :=
  [⟨"config", some 'c', .value false⟩, ⟨"definition", some 'd', .value false⟩,
    ⟨"cwd", none, .value false⟩, ⟨"compiler", none, .value true⟩] ++ commonFlags

/-- The flags of `infer`. -/
def inferFlags : List Flag :=
  [⟨"type-name", some 't', .value true⟩, ⟨"strict", none, .switch⟩,
    ⟨"from-schema", none, .switch⟩, ⟨"json-schema", none, .switch⟩] ++ commonFlags

/-! ## Reading -/

/-- Reads the arguments of `generate`. -/
def GenerateRequest.read (arguments : List String) : Except Stop GenerateRequest := do
  let given ← Arguments.read generateFlags false arguments
  return {
    config := given.value "config" Config.standardFile
    definition := given.value "definition" Output.standardName
    cwd := given.value "cwd" "."
    compiler := given.value "compiler" Command.standardLine
  }

/-- Reads the arguments of `infer`. -/
def InferRequest.read (arguments : List String) : Except Stop InferRequest := do
  let given ← Arguments.read inferFlags true arguments
  if given.others.isEmpty then throw (.fault .noFile)
  return {
    files := given.others
    typeName := given.value "type-name" "Root"
    strict := given.has "strict"
    fromSchema := given.has "from-schema"
    jsonSchema := given.has "json-schema"
  }

/-- Reads the arguments of `help`: nothing, or the name of a command. -/
def readHelp (arguments : List String) : Stop :=
  match arguments with
  | [] => .help
  | [name] =>
    if ["generate", "infer", "help"].contains name then .help else .fault (.unknown name)
  | _ :: other :: _ => .fault (.unknown other)

/-- Reads the arguments of the program: flags, a command, and its arguments. -/
def Request.read (arguments : List String) : Except Stop Request := do
  let (_, command) ← Arguments.readUntilOther rootFlags Arguments.none arguments
  match command with
  | none => .error (.fault .noCommand)
  | some ("generate", rest) => (GenerateRequest.read rest).map .generate
  | some ("infer", rest) => (InferRequest.read rest).map .infer
  | some ("help", rest) => .error (readHelp rest)
  | some (other, _) => .error (.fault (.unknown other))

/-! ## Texts -/

/-- What is printed when help is asked for. -/
def helpText : String :=
  "Typed API clients for OpenAPI services\n\n" ++
  "Usage: apiful [-v] <COMMAND>\n\n" ++
  "Commands:\n" ++
  "  generate  Generate declarations for every configured service with a schema\n" ++
  "  infer     Infer a TypeScript type from JSON samples\n" ++
  "  help      Print this text\n\n" ++
  "Options of generate:\n" ++
  "  -c, --config <CONFIG>          Service configuration file (TOML, YAML or JSON)\n" ++
  "  -d, --definition <DEFINITION>  Output file, or a directory to write apiful.d.ts into\n" ++
  "      --cwd <CWD>                Directory that relative paths are resolved against\n" ++
  "      --compiler <COMPILER>      Command that compiles an OpenAPI document to TypeScript\n\n" ++
  "Options of infer:\n" ++
  "  -t, --type-name <TYPE_NAME>    Name of the exported type\n" ++
  "      --strict                   Make every inferred property required\n" ++
  "      --from-schema              Treat the files as JSON Schema documents\n" ++
  "      --json-schema              Print the merged JSON Schema instead of TypeScript\n\n" ++
  "Options:\n" ++
  "  -v, --verbose...  Increase verbosity\n" ++
  "  -h, --help        Print help\n" ++
  "  -V, --version     Print version\n"

/-- What is printed when the version is asked for. -/
def versionText : String := "apiful 0.1.0\n"

end ApiToolkit.CommandLine
