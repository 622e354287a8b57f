import ApiToolkit.Schema.Basic
/-!
# Merging schemas

The merge of several schemas accepts whatever one of them accepts.

## What is inside

- `Schema.flatten`: unions are spliced into the list that they stand in.
- `Schema.unionOf`: schemas of different kinds become a union.
- `Schema.merge`: objects are merged property by property and arrays by their items.
-/

namespace ApiToolkit.Schema

/-! ## Flattening -/

mutual

/-- The alternatives of a schema: a union is replaced by those of its own alternatives. -/
def alternatives : Schema → List Schema
  | .union members => flatten members
  | other => [other]

/-- The alternatives of all schemas in a list. -/
def flatten : List Schema → List Schema
  | [] => []
  | schema :: rest => alternatives schema ++ flatten rest

end

mutual

/-- Splicing a union loses its own node. -/
theorem weightAll_alternatives_le (schema : Schema) :
    weightAll (alternatives schema) ≤ schema.weight := by
  cases schema with
  | union members =>
    have := weightAll_flatten_le members
    simp only [alternatives, weight]
    omega
  | any => simp [alternatives, weightAll]
  | primitive type => simp [alternatives, weightAll]
  | object properties required isOpen => simp [alternatives, weightAll]
  | array items => simp [alternatives, weightAll]

/-- Flattening adds no nodes. -/
theorem weightAll_flatten_le (schemas : List Schema) :
    weightAll (flatten schemas) ≤ weightAll schemas := by
  cases schemas with
  | nil => simp [flatten]
  | cons schema rest =>
    have h₁ := weightAll_alternatives_le schema
    have h₂ := weightAll_flatten_le rest
    simp only [flatten, weightAll, weightAll_append]
    omega

end

/-! ## Unions -/

/-- Integers are numbers, so both have one place in a union. -/
def slot : Primitive → Primitive
  | .integer => .number
  | other => other

/-- The known schemas of a list.  Of the primitives with one place only the first is kept. -/
def distinctKnown (seen : List Primitive) : List Schema → List Schema
  | [] => []
  | .primitive type :: rest =>
    if seen.contains (slot type) then distinctKnown seen rest
    else .primitive type :: distinctKnown (slot type :: seen) rest
  | .object properties required isOpen :: rest =>
    .object properties required isOpen :: distinctKnown seen rest
  | .array items :: rest => .array items :: distinctKnown seen rest
  | .any :: rest => distinctKnown seen rest
  | .union _ :: rest => distinctKnown seen rest

/-- The union of schemas of several kinds.  All unknown ones become one alternative at the
end. -/
def unionOf (schemas : List Schema) : Schema :=
  let known := distinctKnown [] schemas
  if schemas.any fun schema => schema.kind == .unknown then .union (known ++ [.any])
  else
    match known with
    | [only] => only
    | _ => .union known

/-! ## Objects and arrays -/

/-- The properties and required names of an object schema. -/
structure Shape where
  /-- The declared properties. -/
  properties : Entries Schema
  /-- The required names. -/
  required : List String

/-- The object schemas of a list. -/
def shapes : List Schema → List Shape
  | [] => []
  | .object properties required _ :: rest => ⟨properties, required⟩ :: shapes rest
  | _ :: rest => shapes rest

/-- The property names of several objects in the order of their first appearance. -/
def propertyNames (objects : List Shape) : List String :=
  (objects.flatMap fun object => object.properties.keys).eraseDups

/-- What several objects declare for one name. -/
def declared (objects : List Shape) (name : String) : List Schema :=
  objects.filterMap fun object => object.properties.find? name

/-- The item schemas of the arrays in a list. -/
def itemSchemas : List Schema → List Schema
  | [] => []
  | .array (some items) :: rest => items :: itemSchemas rest
  | _ :: rest => itemSchemas rest

/-- The different kinds in a list. -/
def kinds (schemas : List Schema) : List Kind := (schemas.map kind).eraseDups

/-! ## Merging -/

/-- What several objects declare for a name leaves out one node of each schema. -/
theorem weightAll_declared_le (schemas : List Schema) (name : String) :
    weightAll (declared (shapes schemas) name) + schemas.length ≤ weightAll schemas := by
  induction schemas with
  | nil => simp [shapes, declared, weightAll]
  | cons schema rest ih =>
    have pos := weight_pos schema
    cases schema with
    | object properties required isOpen =>
      simp only [shapes, declared, List.filterMap_cons, List.length_cons, weightAll, weight]
      have ih : weightAll ((shapes rest).filterMap fun object => object.properties.find? name) +
        rest.length ≤ weightAll rest := ih
      cases h : Entries.find? properties name with
      | none => simp only; omega
      | some child =>
        have := weight_le_of_find? h
        simp only [weightAll]
        omega
    | any => simp only [shapes, weightAll, List.length_cons]; omega
    | primitive type => simp only [shapes, weightAll, List.length_cons]; omega
    | array items => simp only [shapes, weightAll, List.length_cons]; omega
    | union members => simp only [shapes, weightAll, List.length_cons]; omega

/-- The item schemas of several arrays leave out one node of each schema. -/
theorem weightAll_itemSchemas_le (schemas : List Schema) :
    weightAll (itemSchemas schemas) + schemas.length ≤ weightAll schemas := by
  induction schemas with
  | nil => simp [itemSchemas, weightAll]
  | cons schema rest ih =>
    have pos := weight_pos schema
    cases schema with
    | array items =>
      cases items with
      | none => simp only [itemSchemas, weightAll, List.length_cons]; omega
      | some items => simp only [itemSchemas, weightAll, weight, List.length_cons]; omega
    | any => simp only [itemSchemas, weightAll, List.length_cons]; omega
    | primitive type => simp only [itemSchemas, weightAll, List.length_cons]; omega
    | object properties required isOpen =>
      simp only [itemSchemas, weightAll, List.length_cons]; omega
    | union members => simp only [itemSchemas, weightAll, List.length_cons]; omega

/-- Parts that leave out one node of each flattened schema weigh less than the schemas. -/
theorem lt_weightAll_of_flatten {schemas : List Schema} (h : schemas ≠ []) {parts : Nat}
    (hp : parts + (flatten schemas).length ≤ weightAll (flatten schemas)) :
    parts < weightAll schemas := by
  have hf := weightAll_flatten_le schemas
  cases hs : flatten schemas with
  | cons _ _ => rw [hs] at hp hf; simp only [List.length_cons] at hp; omega
  | nil =>
    rw [hs] at hp
    simp only [List.length_nil, weightAll] at hp
    cases schemas with
    | nil => exact absurd rfl h
    | cons schema rest =>
      have := weight_pos schema
      simp only [weightAll]
      omega

/-- One schema for several.  Objects are merged property by property, and a name is required if
all of them require it.  An object is open if it declares nothing. -/
def merge (schemas : List Schema) : Schema :=
  match schemas with
  | [] => .any
  | [schema] => schema
  | first :: second :: rest =>
    let flat := flatten (first :: second :: rest)
    -- Unions are gone, so every schema has one kind.
    match kinds flat with
    | [] => .any
    | [.object] =>
      let objects := shapes flat
      let names := propertyNames objects
      .object (names.map fun name => (name, merge (declared objects name)))
        (names.filter fun name => objects.all fun object => object.required.contains name)
        names.isEmpty
    | [.array] => .array (some (merge (itemSchemas flat)))
    -- One kind of primitive, or nothing known at all.
    | [_] => flat.headD .any
    | _ => unionOf flat
termination_by weightAll schemas
decreasing_by
  · exact lt_weightAll_of_flatten (by simp) (weightAll_declared_le _ _)
  · exact lt_weightAll_of_flatten (by simp) (weightAll_itemSchemas_le _)

end ApiToolkit.Schema
