import ApiToolkit.Http.Method
import ApiToolkit.Json.Basic
/-!
# Request options

The options of a request come from several layers: a client's defaults, and those of each call.

## What is inside

- `RequestOptions`: the options.
- `RequestOptions.ofJson?`, `RequestOptions.toJson`: their form as a value.
- `RequestOptions.layer`: one layer over another.
-/

namespace ApiToolkit

/-- What a request is made with. -/
structure RequestOptions where
  /-- The address that relative targets are joined to. -/
  baseUrl : Option String
  /-- The headers. -/
  headers : Entries String
  /-- The method. -/
  method : Option Method
  /-- The parameters of the query. -/
  query : Entries Json
  /-- The body. -/
  body : Option Json
  /-- All other options. -/
  extra : Entries Json

namespace RequestOptions

/-- No options. -/
def empty : RequestOptions := ⟨none, [], none, [], none, []⟩

/-! ## Layers -/

/-- Puts a layer over these options.  A single setting of the layer wins if it is present; headers,
query parameters and other options are written over each other one by one. -/
def layer (base top : RequestOptions) : RequestOptions where
  baseUrl := top.baseUrl.or base.baseUrl
  headers := base.headers.overlay top.headers
  method := top.method.or base.method
  query := base.query.overlay top.query
  body := top.body.or base.body
  extra := base.extra.overlay top.extra

/-! ## Values -/

/-- The keys with a meaning of their own. -/
def knownKeys : List String := ["baseURL", "headers", "method", "query", "body"]

/-- A setting that may be absent or null. -/
def optional? {α : Type} (read : Json → Option α) : Option Json → Option (Option α)
  | none | some .null => some none
  | some value => (read value).map some

/-- A method: its name, or an object with its name as the only key and null as the value. -/
def method? : Json → Option Method
  | .str text => Method.ofOption? text
  | .obj [(text, .null)] => Method.ofOption? text
  | _ => none

/-- A table of strings. -/
def headers? : Option Json → Option (Entries String)
  | none => some []
  | some (.obj entries) => entries.mapM fun (name, value) => value.asString?.map fun v => (name, v)
  | some _ => none

/-- A table of values. -/
def query? : Option Json → Option (Entries Json)
  | none => some []
  | some (.obj entries) => some entries
  | some _ => none

/-- Reads options from an object. -/
def ofJson? (value : Json) : Option RequestOptions :=
  match value with
  | .obj entries => do
    let entries : Entries Json := entries
    let baseUrl ← optional? Json.asString? (entries.find? "baseURL")
    let headers ← headers? (entries.find? "headers")
    let method ← optional? method? (entries.find? "method")
    let query ← query? (entries.find? "query")
    let body ← optional? some (entries.find? "body")
    some ⟨baseUrl, headers, method, query, body,
      entries.filter fun entry => !knownKeys.contains entry.1⟩
  | _ => none

/-- An entry for a setting that is present. -/
def settingPart (key : String) (value : Option Json) : Entries Json :=
  match value with
  | none => []
  | some value => [(key, value)]

/-- An entry for a table that is not empty. -/
def tableEntry (key : String) (entries : Entries Json) : Entries Json :=
  if entries.isEmpty then [] else [(key, .obj entries)]

/-- Writes options as an object.  What is absent or empty is left out. -/
def toJson (o : RequestOptions) : Json :=
  .obj
    (settingPart "baseURL" (o.baseUrl.map .str) ++
      tableEntry "headers" (o.headers.mapValues .str) ++
      settingPart "method" (o.method.map fun m => .str m.name) ++ tableEntry "query" o.query ++
      settingPart "body" o.body ++ o.extra)

end RequestOptions

end ApiToolkit
