import ApiToolkit.Service.Config.Format
import ApiToolkit.Service.Registry
/-!
# Configurations

A configuration lists services by their ids, each with a base address, a schema and options for
the compiler.

## What is inside

- `ServiceConfig`, `Config`: what a configuration says.
- `Config.parse`: reads a text by the extension of its path.
- `Config.load`: reads a file.
- `Config.toRegistry`: registers the services.
-/

namespace ApiToolkit

/-- What a configuration says about a service. -/
structure ServiceConfig where
  /-- The base address. -/
  url : Option String
  /-- A location or a document. -/
  schema : Option Json
  /-- Options for the compiler. -/
  compiler : Option (Entries Json)

/-- A configuration. -/
structure Config where
  /-- The services by their ids, in the order of the text. -/
  services : Entries ServiceConfig

/-! ## Reading -/

namespace ConfigFormat

variable {α : Type}

/-- Reads something optional.  What is not given is absent. -/
def optional? {β : Type} (format : ConfigFormat α) (read? : α → Option β) (given : Option α) :
    Option (Option β) :=
  match given with
  | none => some none
  | some value => do
    if ← format.isAbsent? value then some none else (read? value).map some

/-- The fields with these names.  Other names and repeated names are refused. -/
def takeNamed? (names : List String) (fields : List (String × α)) : Option (List (Option α)) :=
  let given := fields.map (·.1)
  if given.all names.contains && given.eraseDups.length == given.length then
    some (names.map (Entries.find? fields))
  else none

/-- So many fields in order, at least and at most. -/
def takeOrdered? (least most : Nat) (allowsMore : Bool) (fields : List α) :
    Option (List (Option α)) :=
  if fields.length < least || (!allowsMore && fields.length > most) then none
  else some ((List.range most).map fun n => fields[n]?)

/-- The fields of a record.  In order there have to be `least` of them. -/
def fieldsOf? (format : ConfigFormat α) (names : List String) (least : Nat) (value : α) :
    Option (List (Option α)) := do
  match ← format.record? value with
  | .named fields => takeNamed? names fields
  | .ordered fields => takeOrdered? least names.length format.allowsMore fields

/-- Reads options for the compiler. -/
def compilerOptions? (format : ConfigFormat α) (value : α) : Option (Entries Json) := do
  let entries ← format.entries? value
  let values ← entries.mapM fun (name, value) => (format.value? value).map fun v => (name, v)
  some (Entries.collapse values)

/-- Reads what is said about a service. -/
def service? (format : ConfigFormat α) (value : α) : Option ServiceConfig := do
  match ← format.fieldsOf? ["url", "schema", "compiler"] 3 value with
  | [url, schema, compiler] => do
    let url ← format.optional? format.string? url
    let schema ← format.optional? format.value? schema
    let compiler ← format.optional? format.compilerOptions? compiler
    some ⟨url, schema, compiler⟩
  | _ => none

/-- Reads the services.  Of a repeated id the first place is kept and the last value wins. -/
def services? (format : ConfigFormat α) (value : α) : Option (Entries ServiceConfig) := do
  let entries ← format.entries? value
  let services ← entries.mapM fun (id, value) => (format.service? value).map fun s => (id, s)
  some (Entries.collapse services)

/-- Reads a configuration. -/
def config? (format : ConfigFormat α) (value : α) : Option Config := do
  match ← format.fieldsOf? ["services"] 0 value with
  | [some services] => (format.services? services).map Config.mk
  | _ => some ⟨[]⟩

end ConfigFormat

namespace Config

/-- The name of the file that is used if none is given. -/
def standardFile : String := "apiful.toml"

/-- Reads a configuration in the format that the extension of the path tells: JSON, YAML, or TOML
for all other extensions. -/
def read? (text path : String) : Option Config :=
  match FilePath.extension? path with
  | some "json" => (Json.read? text).bind ConfigFormat.json.config?
  -- The case of the extension matters.
  | some "yaml" | some "yml" =>
    (Yaml.read? text).bind fun document =>
      ConfigFormat.yaml.config? ⟨document, Yaml.Document.depthLimit, document.root⟩
  | _ => (Toml.parse? text).bind ConfigFormat.toml.config?

/-- Reads a configuration. -/
def parse (text path : String) : Except GeneratorError Config :=
  match read? text path with
  | some config => .ok config
  | none => .error (.config path .malformed)

/-- Reads a configuration file. -/
def load {m : Type → Type} [Monad m] (files : Files.Host m) (path : String) :
    m (Except GeneratorError Config) := do
  match ← files.readText path with
  | .error fault => return .error (.configRead path fault)
  | .ok text => return parse text path

/-! ## Registering -/

/-- The schema of a service: a string is a location that is seen from the directory, and an object
is a document. -/
def sourceOf [Url.DomainToAscii] (directory id : String) (schema : Option Json) :
    Except GeneratorError (Option SchemaSource) :=
  match schema with
  | none => .ok none
  | some (.str location) => .ok (some ((SchemaSource.ofLocation location).relativeTo directory))
  | some (.obj entries) => .ok (some (.inline (.obj entries)))
  | some other => .error (.config ("services." ++ id ++ ".schema") (.schemaShape other))

/-- Registers one service. -/
def registerService [Url.DomainToAscii] (directory : String) (registry : Registry)
    (service : String × ServiceConfig) : Except GeneratorError Registry := do
  let schema ← sourceOf directory service.1 service.2.schema
  registry.register service.1 ⟨service.2.url, schema, service.2.compiler⟩

/-- Registers all services in order. -/
def toRegistry [Url.DomainToAscii] (config : Config) (directory : String) :
    Except GeneratorError Registry :=
  config.services.foldlM (registerService directory) Registry.empty

end Config

end ApiToolkit
