import ApiToolkit.Json.Basic
import ApiToolkit.Schema.Basic
/-!
# Which values a schema accepts

A schema accepts the values that are valid under the JSON Schema document that it is written as.

## What is inside

- `Primitive.accepts`: the values of a type without parts.
- `Schema.Accepts`: the values that a schema accepts.
-/

namespace ApiToolkit

/-- Whether a finite double is an integer. -/
def Binary64.isIntegral (x : Binary64) : Bool :=
  x.isFinite && (decide (0 ≤ x.exponent) || x.significand % Nat.pow 2 (-x.exponent).toNat == 0)

/-- Whether a number is an integer, however it is written. -/
def Json.Number.isIntegral : Json.Number → Bool
  | .integer _ => true
  | .float x => x.isIntegral

/-- Whether a value has a type without parts. -/
def Primitive.accepts : Primitive → Json → Bool
  | .string, .str _ => true
  | .number, .num _ => true
  | .integer, .num n => n.isIntegral
  | .boolean, .bool _ => true
  | .null, .null => true
  | _, _ => false

namespace Schema

/-- The values that a schema accepts. -/
inductive Accepts : Schema → Json → Prop where
  /-- Anything is accepted where nothing is known. -/
  | any (value : Json) : Accepts .any value
  | primitive {type : Primitive} {value : Json} (typed : type.accepts value = true) :
      Accepts (.primitive type) value
  /-- An object has every required name, its declared properties are accepted, and it has no others
  unless the schema is open. -/
  | object {properties : Entries Schema} {required : List String} {isOpen : Bool}
      {entries : Entries Json} (present : ∀ name ∈ required, entries.has name = true)
      (each : ∀ name child value, properties.find? name = some child →
        entries.find? name = some value → Accepts child value)
      (others : isOpen = false → ∀ name, entries.has name = true → properties.has name = true) :
      Accepts (.object properties required isOpen) (.obj entries)
  /-- All elements of an array are accepted by the item schema, if there is one. -/
  | array {items : Option Schema} {values : List Json}
      (each : ∀ child, items = some child → ∀ value ∈ values, Accepts child value) :
      Accepts (.array items) (.arr values)
  | union {alternatives : List Schema} {alternative : Schema} {value : Json}
      (member : alternative ∈ alternatives) (accepted : Accepts alternative value) :
      Accepts (.union alternatives) value

end Schema

end ApiToolkit
