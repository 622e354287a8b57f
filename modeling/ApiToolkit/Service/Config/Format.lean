import ApiToolkit.Toml.Document
import ApiToolkit.Yaml.Document
/-!
# Formats of configuration files

A configuration is read from JSON, YAML or TOML.  They differ in what they let pass for a map, a
record, a string and something absent.

## What is inside

- `ConfigFormat`: what a reader asks of a value.
- `ConfigRecord`: a record, with its fields named or in order.
- `ConfigFormat.json`, `ConfigFormat.toml`, `ConfigFormat.yaml`: the three formats.
-/

namespace ApiToolkit

/-- A record, as it is written. -/
inductive ConfigRecord (α : Type) where
  /-- Fields with names, which may be repeated. -/
  | named (fields : List (String × α))
  /-- Fields in order. -/
  | ordered (fields : List α)

/-- What a reader asks of a value. -/
structure ConfigFormat (α : Type) where
  /-- The entries of a map, with repeated names kept. -/
  entries? : α → Option (List (String × α))
  /-- The fields of a record. -/
  record? : α → Option (ConfigRecord α)
  /-- Whether a field in order may be left over. -/
  allowsMore : Bool
  /-- Whether something optional is absent.  There is no answer for an ill-formed value. -/
  isAbsent? : α → Option Bool
  /-- The text of a string. -/
  string? : α → Option String
  /-- The value itself. -/
  value? : α → Option Json

namespace ConfigFormat

/-! ## JSON and TOML -/

/-- The entries of an object. -/
def objectEntries? : Json → Option (List (String × Json))
  | .obj entries => some entries
  | _ => none

/-- The fields of an object or of an array. -/
def fields? : Json → Option (ConfigRecord Json)
  | .obj entries => some (.named entries)
  | .arr items => some (.ordered items)
  | _ => none

/-- JSON: null is absent. -/
def json : ConfigFormat Json where
  entries? := objectEntries?
  record? := fields?
  allowsMore := false
  isAbsent? value := some (match value with | .null => true | _ => false)
  string? := Json.asString?
  value? value := some value.collapse

/-- TOML: what is written is never absent. -/
def toml : ConfigFormat Json where
  entries? := objectEntries?
  record? := fields?
  allowsMore := true
  isAbsent? _ := some false
  string? := Json.asString?
  value? value := some value

/-! ## YAML -/

/-- A node of a YAML document, and how deep collections may still be nested in it. -/
structure YamlValue where
  /-- The document. -/
  document : Yaml.Document
  /-- The depth that is left. -/
  depth : Nat
  /-- The node; there is none in an empty document. -/
  node : Option Yaml.Bound

namespace YamlValue

/-- A node below. -/
def below (value : YamlValue) (node : Yaml.Bound) : YamlValue :=
  { value with depth := value.depth - 1, node := some node }

/-- The node, or the node that an alias refers to. -/
def target (value : YamlValue) : Option Yaml.Bound := value.node.map value.document.target

/-- Whether nothing is written. -/
def isVoid (value : YamlValue) : Bool :=
  match value.target with
  | none => true
  | some (.scalar _ _ text isPlain) => isPlain && text.isEmpty
  | _ => false

/-- The entries of a mapping. -/
def mapping? (value : YamlValue) (entries : List (Yaml.Bound × Yaml.Bound)) :
    Option (List (String × YamlValue)) :=
  if value.depth = 0 then none
  else
    entries.mapM fun (key, node) =>
      (value.document.keyText? key).map fun name => (name, value.below node)

/-- The entries of a map.  Where nothing is written there are none. -/
def entries? (value : YamlValue) : Option (List (String × YamlValue)) :=
  match value.target with
  | some (.mapping _ _ entries) => value.mapping? entries
  | _ => if value.isVoid then some [] else none

/-- The fields of a record.  Where nothing is written there are none. -/
def record? (value : YamlValue) : Option (ConfigRecord YamlValue) :=
  match value.target with
  | some (.mapping _ _ entries) => (value.mapping? entries).map .named
  | some (.sequence _ _ items) =>
    if value.depth = 0 then none else some (.ordered (items.map value.below))
  | _ => if value.isVoid then some (.named []) else none

/-- Whether something optional is absent: a plain scalar that stands for null. -/
def isAbsent? (value : YamlValue) : Option Bool :=
  match value.target with
  | none => some true
  | some (.scalar _ tag text isPlain) =>
    if !isPlain then some false
    else
      match tag with
      | some "tag:yaml.org,2002:null" => if Yaml.isNullText text then some true else none
      | some _ => some false
      | none => some (text.isEmpty || Yaml.isNullText text)
  | some _ => some false

/-- The text of a scalar. -/
def string? (value : YamlValue) : Option String :=
  match value.target with
  | some (.scalar _ _ text _) => some text
  | _ => none

/-- The value of the node. -/
def toJson? (value : YamlValue) : Option Json :=
  match value.node with
  | none => some .null
  | some node =>
    (value.document.value? value.depth value.document.aliasLimit node).map (·.1)

end YamlValue

/-- YAML: every scalar passes for a string, and nothing passes for an empty map. -/
def yaml : ConfigFormat YamlValue where
  entries? := YamlValue.entries?
  record? := YamlValue.record?
  allowsMore := false
  isAbsent? := YamlValue.isAbsent?
  string? := YamlValue.string?
  value? := YamlValue.toJson?

end ConfigFormat

end ApiToolkit
