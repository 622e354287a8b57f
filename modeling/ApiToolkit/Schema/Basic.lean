import ApiToolkit.Entries
/-!
# Schemas

A schema describes JSON values.  Samples and JSON Schema documents are both read as schemas, and
declarations are written from them.

## What is inside

- `Primitive`, `Schema`: the tree.
- `Schema.kind`: the partition that merging works by.
- `Schema.same`: equality up to the order of properties and required names.
-/

namespace ApiToolkit

/-- The types of values without parts. -/
inductive Primitive where
  | string
  | number
  | integer
  | boolean
  | null
deriving DecidableEq, Repr

/-- The name of a type. -/
def Primitive.name : Primitive → String
  | .string => "string"
  | .number => "number"
  | .integer => "integer"
  | .boolean => "boolean"
  | .null => "null"

/-- The type with this name. -/
def Primitive.ofName? (name : String) : Option Primitive :=
  [Primitive.string, .number, .integer, .boolean, .null].find? (·.name == name)

/-- A description of JSON values. -/
inductive Schema where
  /-- Any value. -/
  | any
  /-- A value without parts. -/
  | primitive (type : Primitive)
  /-- An object with declared properties, some of them required; other keys are allowed if it is
  open. -/
  | object (properties : List (String × Schema)) (required : List String) (isOpen : Bool)
  /-- An array; there is no item schema if nothing is known about its elements. -/
  | array (items : Option Schema)
  /-- One of several alternatives. -/
  | union (alternatives : List Schema)
deriving Repr, Inhabited

/-- The kinds of schemas that are told apart when schemas are merged. -/
inductive Kind where
  | primitive (type : Primitive)
  | object
  | array
  | unknown
deriving DecidableEq, Repr

namespace Schema

/-- The kind of a schema.  Unions have none of their own. -/
def kind : Schema → Kind
  | .primitive type => .primitive type
  | .object .. => .object
  | .array _ => .array
  | .any | .union _ => .unknown

/-! ## Size -/

mutual

/-- The number of nodes. -/
def weight : Schema → Nat
  | .any => 1
  | .primitive _ => 1
  | .object properties _ _ => weightProperties properties + 1
  | .array none => 1
  | .array (some items) => weight items + 1
  | .union alternatives => weightAll alternatives + 1

/-- The number of nodes of all properties. -/
def weightProperties : List (String × Schema) → Nat
  | [] => 0
  | (_, child) :: rest => weight child + weightProperties rest

/-- The number of nodes of all schemas in a list. -/
def weightAll : List Schema → Nat
  | [] => 0
  | schema :: rest => weight schema + weightAll rest

end

/-- Every schema has a node of its own. -/
theorem weight_pos (schema : Schema) : 0 < schema.weight := by
  unfold weight
  split <;> omega

/-- Nodes are counted list by list. -/
theorem weightAll_append (xs ys : List Schema) :
    weightAll (xs ++ ys) = weightAll xs + weightAll ys := by
  induction xs with
  | nil => simp [weightAll]
  | cons x xs ih => simp [weightAll, ih, Nat.add_assoc]

/-- A declared property has no more nodes than all of them. -/
theorem weight_le_of_find? {properties : Entries Schema} {name : String} {child : Schema}
    (h : properties.find? name = some child) : child.weight ≤ weightProperties properties := by
  induction properties with
  | nil => simp [Entries.find?] at h
  | cons entry rest ih =>
    obtain ⟨key, value⟩ := entry
    simp only [Entries.find?] at h
    split at h
    · cases h
      simp [weightProperties]
    · have := ih h
      simp only [weightProperties]
      omega

/-! ## Equality up to order -/

mutual

/-- Whether two schemas agree, whatever the order of properties and required names. -/
def same : Schema → Schema → Bool
  | .any, .any => true
  | .primitive a, .primitive b => a == b
  | .object ps rs o, .object qs ts u =>
    ps.length == qs.length && sameProperties ps qs && rs.length == ts.length &&
      rs.all ts.contains && o == u
  | .array none, .array none => true
  | .array (some a), .array (some b) => same a b
  | .union as, .union bs => sameAll as bs
  | _, _ => false

/-- Whether every property agrees with the one of the same name in another object. -/
def sameProperties : List (String × Schema) → List (String × Schema) → Bool
  | [], _ => true
  | (name, child) :: rest, others =>
    (match Entries.find? others name with
      | some other => same child other
      | none => false) && sameProperties rest others

/-- Whether two lists agree, schema by schema. -/
def sameAll : List Schema → List Schema → Bool
  | [], [] => true
  | a :: as, b :: bs => same a b && sameAll as bs
  | _, _ => false

end

end Schema

end ApiToolkit
