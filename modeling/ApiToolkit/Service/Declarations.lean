import ApiToolkit.Service.Compiler
import ApiToolkit.Service.Registry
/-!
# The file of declarations

The file begins with a banner and a hub module that imports the types of all services.  Then there
is one module for each service.

## What is inside

- `Declarations.hub`: the hub module.
- `Declarations.reindent`, `Declarations.serviceBlock`: the module of a service.
- `Declarations.text`: the whole file.
- `Declarations.compileService`, `Declarations.outcomes`: the types of the services.
-/

namespace ApiToolkit

/-- How the types of a service were made: the service, and the types or an error. -/
structure ServiceTypes where
  /-- The service. -/
  service : Service
  /-- Its types. -/
  types : Except GeneratorError String

namespace Declarations

/-! ## Fixed texts -/

/-- The lines that the file begins with. -/
def bannerLines : List String :=
  ["/* eslint-disable */", "/* prettier-ignore */", "// @ts-nocheck",
    "// This file was automatically generated by apiful. Do not edit manually."]

/-- What the file begins with. -/
def banner : List Char := Text.joinWith ['\n'] (bannerLines.map String.toList)

/-- The types of a service whose own types could not be made. -/
def placeholder : String :=
  "export type paths = Record<string, never>\n" ++
  "export type webhooks = Record<string, never>\n" ++
  "export interface components \x7b\n" ++
  "  schemas: never\n" ++
  "  responses: never\n" ++
  "  parameters: never\n" ++
  "  requestBodies: never\n" ++
  "  headers: never\n" ++
  "  pathItems: never\n" ++
  "\x7d\n" ++
  "export type $defs = Record<string, never>\n" ++
  "export type operations = Record<string, never>\n"

/-- The methods of a path. -/
def methodUnion : String :=
  "'get' | 'put' | 'post' | 'delete' | 'options' | 'head' | 'patch' | 'trace'"

/-- The name of the hub module. -/
def hubModule : String := "apiful/schema"

/-- The block of a module around lines that are indented already. -/
def moduleBlock (name : String) (body : List Char) : List Char :=
  ("declare module '" ++ name ++ "' \x7b\n").toList ++ body ++ "\n\x7d".toList

/-! ## The hub -/

/-- Imports the types of a service under their prefix. -/
def importLine (service : Service) : List Char :=
  ("  import \x7b paths as " ++ service.identifier ++ "Paths, operations as " ++
    service.identifier ++ "Operations \x7d from '" ++ Naming.serviceModule service.id ++
    "'").toList

/-- The member of the repository for a service. -/
def repositoryLine (service : Service) : List Char :=
  "    ".toList ++ Naming.propertyKey service.id.toList ++
    (": " ++ service.identifier ++ "Paths").toList

/-- The lines of the interface that lists the paths of all services. -/
def repositoryLines (services : List Service) : List (List Char) :=
  "  interface OpenAPISchemaRepository \x7b".toList :: services.map repositoryLine ++
    ["  \x7d".toList]

/-- The interface that lists the paths of all services. -/
def repository (services : List Service) : List Char :=
  Text.joinWith ['\n'] (repositoryLines services)

/-- A type that is derived from the paths of a service. -/
structure Helper where
  /-- What stands after the prefix of the service in its name. -/
  suffix : String
  /-- What stands after its name in the same line. -/
  tail : String
  /-- The lines after the first one. -/
  more : List String

/-- The lines that declare a type of a service with the prefix `p`. -/
def Helper.lines (p : String) (helper : Helper) : List (List Char) :=
  ("  export type " ++ p ++ helper.suffix ++ helper.tail).toList :: helper.more.map String.toList

/-- The types that are derived from the paths of a service with the prefix `p`. -/
def helpers (p : String) : List Helper :=
  let pm := "P extends " ++ p ++ "Path, M extends " ++ p ++ "Method<P>"
  let operation := p ++ "Operation<P, M>"
  [⟨"Path", " = keyof " ++ p ++ "Paths", []⟩,
    ⟨"Method", "<P extends " ++ p ++ "Path> = Extract<keyof " ++ p ++ "Paths[P], " ++
      methodUnion ++ ">", []⟩,
    ⟨"Operation", "<" ++ pm ++ "> = " ++ p ++ "Paths[P][M]", []⟩,
    ⟨"OperationById", "<T extends keyof " ++ p ++ "Operations> = " ++ p ++ "Operations[T]", []⟩,
    ⟨"PathParams", "<" ++ pm ++ "> = " ++ operation ++
      " extends \x7b parameters: \x7b path?: infer U \x7d \x7d ? U : never", []⟩,
    ⟨"Query", "<" ++ pm ++ "> = " ++ operation ++
      " extends \x7b parameters: \x7b query?: infer U \x7d \x7d ? U : never", []⟩,
    ⟨"RequestBody", "<" ++ pm ++ "> = " ++ operation ++
      " extends \x7b requestBody?: \x7b content: \x7b 'application/json': infer U \x7d \x7d \x7d" ++
      " ? U : never", []⟩,
    ⟨"Responses", "<" ++ pm ++ "> = " ++ operation ++ " extends \x7b responses: infer R \x7d",
      ["    ? \x7b [S in keyof R]: R[S] extends \x7b content: \x7b 'application/json': infer U " ++
        "\x7d \x7d ? U : unknown \x7d",
        "    : never"]⟩,
    ⟨"Response", "<",
      ["    " ++ pm ++ ",",
        "    S extends keyof " ++ p ++ "Responses<P, M> = 200 extends keyof " ++ p ++
          "Responses<P, M> ? 200 : never",
        "  > = " ++ p ++ "Responses<P, M>[S]"]⟩]

/-- The declarations of these types. -/
def helperAliases (p : String) : List Char :=
  Text.joinWith ['\n'] ((helpers p).flatMap (Helper.lines p))

/-- The hub module. -/
def hub (services : List Service) : List Char :=
  let imports := Text.joinWith ['\n'] (services.map importLine)
  let helpers := Text.joinWith ['\n', '\n'] (services.map fun s => helperAliases s.identifier)
  let sections :=
    -- Without services there is still an empty interface.
    if services.isEmpty then [repository services] else [imports, repository services, helpers]
  moduleBlock hubModule (Text.joinWith ['\n', '\n'] sections)

/-! ## The modules of services -/

/-- Indents a line for a module.  Four blanks at the beginning become two, two more are put before
them, and blanks at the end are dropped. -/
def reindentLine (line : List Char) : List Char :=
  let rest := line.dropWhile (· == ' ')
  let leading := line.length - rest.length
  Text.trimEndBy Letter.isBlank
    -- Groups of four are halved; blanks beyond the last group are kept.
    (List.replicate (2 * (leading / 4 + 1) + leading % 4) ' ' ++ rest)

/-- Indents the lines of a text for a module. -/
def reindent (code : List Char) : List Char :=
  Text.joinWith ['\n'] ((Text.lines code).map reindentLine)

/-- The module of a service. -/
def serviceBlock (id : String) (types : String) : List Char :=
  moduleBlock (Naming.serviceModule id) (Text.trimEndBy Letter.isBlank (reindent types.toList))

/-! ## The file -/

/-- The types that stand in the file. -/
def shownTypes (types : Except GeneratorError String) : String :=
  match types with
  | .ok text => text
  | .error _ => placeholder

/-- The whole file. -/
def text (services : List ServiceTypes) : String :=
  let blocks := banner :: hub (services.map (·.service)) ::
    services.map fun s => serviceBlock s.service.id (shownTypes s.types)
  String.ofList (Text.joinWith ['\n', '\n'] blocks ++ ['\n'])

/-- The errors because of which there are placeholders, in order. -/
def failures (services : List ServiceTypes) : List GeneratorError :=
  services.filterMap fun s =>
    match s.types with
    | .ok _ => none
    | .error e => some e

/-! ## Making the types -/

variable {m : Type → Type} [Monad m]

/-- Makes the types of a service: its document is resolved and compiled. -/
def compileService (files : Files.Host m) (fetch : Url → m (Option String)) (compiler : Compiler m)
    (service : Service) : m (Except GeneratorError String) := do
  match service.options.schema with
  | none => return .ok placeholder
  | some source =>
    match ← source.resolve files fetch service.id with
    | .error e => return .error e
    | .ok document =>
      return (← compiler document service.options.compilerOptions).mapError (.compile service.id)

/-- Makes the types of all services that have a schema. -/
def outcomes (files : Files.Host m) (fetch : Url → m (Option String)) (compiler : Compiler m)
    (registry : Registry) : m (List ServiceTypes) :=
  registry.withSchemas.mapM fun service => do
    return ⟨service, ← compileService files fetch compiler service⟩

end Declarations

end ApiToolkit
