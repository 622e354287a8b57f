import ApiToolkit.Json.Basic
import ApiToolkit.Schema.Merge
/-!
# Schemas of samples

## What is inside

- `Schema.infer`: the schema of one sample.  The elements of an array are merged.
- `Schema.inferAll`: the schemas of several samples.
-/

namespace ApiToolkit.Schema

mutual

/-- The schema of a sample.  If `strict` is set all properties of an object are required, and
otherwise none is.  An empty object is open. -/
def infer (strict : Bool) : Json → Schema
  | .null => .primitive .null
  | .bool _ => .primitive .boolean
  | .num _ => .primitive .number
  | .str _ => .primitive .string
  | .arr items => .array (some (merge (inferAll strict items)))
  | .obj entries =>
    let properties := inferProperties strict entries
    .object properties (if strict then properties.map (·.1) else []) entries.isEmpty

/-- The schemas of samples. -/
def inferAll (strict : Bool) : List Json → List Schema
  | [] => []
  | sample :: rest => infer strict sample :: inferAll strict rest

/-- The schemas of the values of an object. -/
def inferProperties (strict : Bool) : List (String × Json) → List (String × Schema)
  | [] => []
  | (key, sample) :: rest => (key, infer strict sample) :: inferProperties strict rest

end

end ApiToolkit.Schema
