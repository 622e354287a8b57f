import ApiToolkit.CommandLine.Request
import ApiToolkit.Schema.Declaration
/-!
# Running the program

## What is inside

- `CommandError`: why a request fails.
- `Report`: what the program prints and how it ends.
- `Surroundings`: the files, the network and the programs that a run can reach.
- `infer`, `generate`: the two requests.
- `run`: the whole program.
-/

namespace ApiToolkit.CommandLine

/-- Why a request fails. -/
inductive CommandError where
  /-- Generating failed. -/
  | generator (error : GeneratorError)
  /-- A sample could not be read. -/
  | unreadable (path : String) (fault : Files.Fault)
  /-- A sample is no JSON. -/
  | malformed (path : String)

/-- The text of an error. -/
def CommandError.message : CommandError → String
  | .generator error => error.message
  | .unreadable path fault => "failed to read '" ++ path ++ "': " ++ fault.message
  | .malformed path => "'" ++ path ++ "' is not valid JSON"

/-- How the program ends. -/
inductive Ending where
  /-- All went well. -/
  | done
  /-- The request failed. -/
  | failed (error : CommandError)
  /-- The arguments are wrong. -/
  | misused (fault : UsageFault)

/-- The status with which the program ends. -/
def Ending.status : Ending → Nat
  | .done => 0
  | .failed _ => 1
  | .misused _ => 2

/-- What the program prints and how it ends. -/
structure Report where
  /-- What is printed. -/
  output : String
  /-- The errors of services that got placeholders. -/
  warnings : List GeneratorError
  /-- How the program ends. -/
  ending : Ending

/-- What a run can reach. -/
structure Surroundings (m : Type → Type) where
  /-- The files. -/
  files : Files.Host m
  /-- The text under a URL. -/
  fetch : Url → m (Option String)
  /-- Runs a program. -/
  runProgram : Command.Invocation → m Command.Outcome

variable {m : Type → Type} [Monad m]

/-! ## Samples -/

/-- Reads the schema of one file. -/
def readSchema (files : Files.Host m) (request : InferRequest) (path : String) :
    m (Except CommandError Schema) := do
  match ← files.readText path with
  | .error fault => return .error (.unreadable path fault)
  | .ok text =>
    match Json.parse? text with
    | none => return .error (.malformed path)
    | some value =>
      return .ok (if request.fromSchema then Schema.ofJsonSchema (WrappedDocument.unwrap value)
        else Schema.infer request.strict value)

/-- Reads the schemas of several files, up to the first one that fails. -/
def readSchemas (files : Files.Host m) (request : InferRequest) (paths : List String) :
    m (Except CommandError (List Schema)) :=
  match paths with
  | [] => return .ok []
  | path :: rest => do
    match ← readSchema files request path with
    | .error e => return .error e
    | .ok schema => return (← readSchemas files request rest).map (schema :: ·)

/-- What is printed for a schema. -/
def schemaText (request : InferRequest) (schema : Schema) : String :=
  if request.jsonSchema then schema.toJsonSchema.pretty ++ "\n"
  else
    schema.declaration
      { DeclarationOptions.standard with
        typeName := request.typeName
        strictProperties := request.strict }

/-- Prints the type of some samples. -/
def infer (files : Files.Host m) (request : InferRequest) : m Report := do
  match ← readSchemas files request request.files with
  | .error e => return ⟨"", [], .failed e⟩
  | .ok schemas => return ⟨schemaText request (Schema.merge schemas), [], .done⟩

/-! ## Declarations -/

/-- Reads the services and the compiler of a request. -/
def prepare [Url.DomainToAscii] (files : Files.Host m) (request : GenerateRequest) :
    m (Except GeneratorError (Registry × Command)) := do
  match ← Config.load files (FilePath.join request.cwd request.config) with
  | .error e => return .error e
  | .ok config =>
    return do
      let registry ← config.toRegistry request.cwd
      let command ← Command.parse request.compiler
      pure (registry, command)

/-- What is printed for a file that was written. -/
def generatedText (path : String) : String := "✓ Generated " ++ path ++ "\n"

/-- Writes declarations. -/
def generate [Url.DomainToAscii] (around : Surroundings m) (request : GenerateRequest) :
    m Report := do
  match ← prepare around.files request with
  | .error e => return ⟨"", [], .failed (.generator e)⟩
  | .ok (registry, command) =>
    let target := FilePath.join request.cwd request.definition
    let (written, warnings) ← Output.generate around.files around.fetch
      (command.compiler around.runProgram) registry target
    match written with
    | .error e => return ⟨"", warnings, .failed (.generator e)⟩
    | .ok path => return ⟨generatedText path, warnings, .done⟩

/-! ## The program -/

/-- Runs the program with some arguments. -/
def run [Url.DomainToAscii] (around : Surroundings m) (arguments : List String) : m Report :=
  match Request.read arguments with
  | .error .help => return ⟨helpText, [], .done⟩
  | .error .version => return ⟨versionText, [], .done⟩
  | .error (.fault fault) => return ⟨"", [], .misused fault⟩
  | .ok (.generate request) => generate around request
  | .ok (.infer request) => infer around.files request

end ApiToolkit.CommandLine
