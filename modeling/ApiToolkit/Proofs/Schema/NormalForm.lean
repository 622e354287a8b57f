import ApiToolkit.Proofs.Schema.Merging
/-!
# What a schema says about types

Several schemas are written as one TypeScript type: integers are numbers there, an alternative that
stands twice is written once, and only properties that are declared can be required.  The normal
form of a schema keeps what its type keeps.

## What is inside

- `Schema.decideEq`: equality of schemas.
- `Schema.normalForm`, with `Schema.alternatives_normalForm_union`.
- `Schema.oneOf_alternatives_normalForm`: a normal form is known by its alternatives.
-/

namespace ApiToolkit.Schema

/-! ## Equality -/

mutual

/-- Whether two schemas are the same, node by node. -/
def decideEq : (first second : Schema) → Decidable (first = second)
  | .any, second =>
    match second with
    | .any => .isTrue rfl
    | .primitive _ | .object .. | .array _ | .union _ => .isFalse nofun
  | .primitive type, second =>
    match second with
    | .primitive other => decidable_of_iff (type = other) (by simp)
    | .any | .object .. | .array _ | .union _ => .isFalse nofun
  | .object properties required isOpen, second =>
    match second with
    | .object others names isOpen' =>
      have := decideEqProperties properties others
      decidable_of_iff (properties = others ∧ required = names ∧ isOpen = isOpen') (by simp)
    | .any | .primitive _ | .array _ | .union _ => .isFalse nofun
  | .array none, second =>
    match second with
    | .array none => .isTrue rfl
    | .array (some _) | .any | .primitive _ | .object .. | .union _ => .isFalse nofun
  | .array (some items), second =>
    match second with
    | .array (some others) =>
      have := decideEq items others
      decidable_of_iff (items = others) (by simp)
    | .array none | .any | .primitive _ | .object .. | .union _ => .isFalse nofun
  | .union members, second =>
    match second with
    | .union others =>
      have := decideEqAll members others
      decidable_of_iff (members = others) (by simp)
    | .any | .primitive _ | .object .. | .array _ => .isFalse nofun

/-- Whether two lists have the same schemas. -/
def decideEqAll : (first second : List Schema) → Decidable (first = second)
  | [], [] => .isTrue rfl
  | schema :: rest, other :: others =>
    have := decideEq schema other
    have := decideEqAll rest others
    decidable_of_iff (schema = other ∧ rest = others) (by simp)
  | [], _ :: _ | _ :: _, [] => .isFalse nofun

/-- Whether two lists have the same properties. -/
def decideEqProperties : (first second : List (String × Schema)) → Decidable (first = second)
  | [], [] => .isTrue rfl
  | (name, schema) :: rest, (name', other) :: others =>
    have := decideEq schema other
    have := decideEqProperties rest others
    decidable_of_iff (name = name' ∧ schema = other ∧ rest = others) (by simp [and_assoc])
  | [], _ :: _ | _ :: _, [] => .isFalse nofun

end

instance : DecidableEq Schema := decideEq

/-! ## Normal forms -/

/-- One of several schemas; a single one stands for itself. -/
def oneOf : List Schema → Schema
  | [only] => only
  | members => .union members

theorem unionOf_eq (schemas : List Schema) : unionOf schemas =
    if schemas.any fun schema => schema.kind == .unknown then
      .union (distinctKnown [] schemas ++ [.any])
    else oneOf (distinctKnown [] schemas) := by
  simp only [unionOf]
  generalize distinctKnown [] schemas = known
  rcases known with _ | ⟨first, _ | ⟨second, rest⟩⟩ <;> rfl

mutual

/-- What the type of a schema keeps.  Required names that are not declared are left out, and the
others stand in the order of the properties, since they are a set. -/
def normalForm : Schema → Schema
  | .any => .any
  | .primitive .integer => .primitive .number
  | .primitive type => .primitive type
  | .object properties required isOpen =>
    .object (normalProperties properties) ((properties.map (·.1)).filter required.contains) isOpen
  | .array none => .array (some .any)
  | .array (some items) => .array (some (normalForm items))
  | .union members => oneOf (flatten (normalForms members)).eraseDups

/-- The normal forms of several schemas. -/
def normalForms : List Schema → List Schema
  | [] => []
  | schema :: rest => normalForm schema :: normalForms rest

/-- The normal forms of properties. -/
def normalProperties : List (String × Schema) → List (String × Schema)
  | [] => []
  | (name, schema) :: rest => (name, normalForm schema) :: normalProperties rest

end

theorem normalForms_eq_map (schemas : List Schema) :
    normalForms schemas = schemas.map normalForm := by
  induction schemas with
  | nil => rfl
  | cons schema rest ih => rw [normalForms, ih, List.map_cons]

/-- Only a union has a union as its normal form. -/
theorem normalForm_ne_union {schema : Schema} (h : ∀ members, schema ≠ .union members)
    (inner : List Schema) : normalForm schema ≠ .union inner := by
  cases schema with
  | any => rw [normalForm]; nofun
  | primitive type => cases type <;> simp [normalForm]
  | object properties required isOpen => rw [normalForm]; nofun
  | array items => cases items <;> simp [normalForm]
  | union members => exact absurd rfl (h members)

/-- Schemas that are no unions are the alternatives of one of them. -/
theorem alternatives_oneOf {members : List Schema}
    (h : ∀ member ∈ members, ∀ inner, member ≠ .union inner) :
    alternatives (oneOf members) = members := by
  have hflat : flatten members = members := by
    rw [flatten_eq_flatMap, List.flatMap_congr fun member hmember =>
      alternatives_of_ne_union (h member hmember), List.flatMap_singleton']
  unfold oneOf
  split
  next only => exact alternatives_of_ne_union (h only (List.mem_singleton_self only))
  next => exact hflat

/-- The alternatives of a union are those of its members, without repetitions. -/
theorem alternatives_normalForm_union (members : List Schema) :
    alternatives (normalForm (.union members)) =
      (members.flatMap fun member => alternatives (normalForm member)).eraseDups := by
  have hflat : ∀ member ∈ (flatten (normalForms members)).eraseDups,
      ∀ inner, member ≠ .union inner := fun member hmember =>
    ne_union_of_mem_flatten _ (List.mem_eraseDups.mp hmember)
  rw [normalForm, alternatives_oneOf hflat, flatten_eq_flatMap, normalForms_eq_map,
    List.flatMap_map]

/-- A normal form is one of its alternatives. -/
theorem oneOf_alternatives_normalForm (schema : Schema) :
    oneOf (alternatives (normalForm schema)) = normalForm schema := by
  by_cases hunion : ∃ members, schema = .union members
  · -- The normal form of a union is made from its alternatives.
    obtain ⟨members, rfl⟩ := hunion
    rw [alternatives_normalForm_union, normalForm, flatten_eq_flatMap, normalForms_eq_map,
      List.flatMap_map]
  · have hne := normalForm_ne_union (not_exists.mp hunion)
    rw [alternatives_of_ne_union hne]
    rfl

end ApiToolkit.Schema
