import ApiToolkit.Naming
import ApiToolkit.Schema.Inference
/-!
# TypeScript declarations

A schema is written as an interface or a type alias.

## What is inside

- `Schema.typeText`: the type expression of a schema.
- `DeclarationOptions`: name, strictness and banner, and how they are read from a value.
- `Schema.declaration`: the whole text.
-/

namespace ApiToolkit

namespace Schema

/-! ## Type expressions -/

/-- The type of values without parts. -/
def primitiveText : Primitive → List Char
  | .string => "string".toList
  | .number => "number".toList
  | .integer => "number".toList
  | .boolean => "boolean".toList
  | .null => "null".toList

/-- Two blanks for each depth. -/
def indentation (depth : Nat) : List Char := List.replicate (2 * depth) ' '

/-- Whether a schema has to stand in parentheses before brackets. -/
def isUnion : Schema → Bool
  | .union _ => true
  | _ => false

/-- The members of an object type between braces, one in a line. -/
def braced (depth : Nat) (members : List (List Char)) : List Char :=
  if members.isEmpty then ['{', '}']
  else ['{', '\n'] ++ Text.joinWith ['\n'] members ++ ['\n'] ++ indentation depth ++ ['}']

/-- The member for undeclared properties. -/
def indexSignature (depth : Nat) : List Char :=
  indentation (depth + 1) ++ "[k: string]: unknown".toList

mutual

/-- The type expression of a schema that stands `depth` deep.  Equal alternatives of a union are
written once. -/
def typeText (depth : Nat) : Schema → List Char
  | .any => "unknown".toList
  | .primitive type => primitiveText type
  | .object properties required isOpen =>
    braced depth (memberTexts depth required properties ++
      if isOpen then [indexSignature depth] else [])
  | .array none => "unknown[]".toList
  | .array (some items) =>
    let text := typeText depth items
    if isUnion items then '(' :: text ++ [')', '[', ']'] else text ++ ['[', ']']
  | .union alternatives => Text.joinWith " | ".toList (typeTexts depth alternatives).eraseDups

/-- The type expressions of several schemas. -/
def typeTexts (depth : Nat) : List Schema → List (List Char)
  | [] => []
  | schema :: rest => typeText depth schema :: typeTexts depth rest

/-- The lines of the properties of an object type. -/
def memberTexts (depth : Nat) (required : List String) :
    List (String × Schema) → List (List Char)
  | [] => []
  | (name, schema) :: rest =>
    (indentation (depth + 1) ++ Naming.propertyKey name.toList ++
        (if required.contains name then [] else ['?']) ++ [':', ' '] ++
        typeText (depth + 1) schema) ::
      memberTexts depth required rest

end

theorem typeTexts_eq_map (depth : Nat) (schemas : List Schema) :
    typeTexts depth schemas = schemas.map (typeText depth) := by
  induction schemas with
  | nil => rfl
  | cons schema rest ih => rw [typeTexts, ih, List.map_cons]

theorem typeText_object (depth : Nat) (properties : List (String × Schema)) (required : List String)
    (isOpen : Bool) : typeText depth (.object properties required isOpen) =
    braced depth (memberTexts depth required properties ++
      if isOpen then [indexSignature depth] else []) := rfl

theorem typeText_array (depth : Nat) (items : Schema) : typeText depth (.array (some items)) =
    if isUnion items then '(' :: typeText depth items ++ [')', '[', ']']
    else typeText depth items ++ ['[', ']'] := rfl

theorem typeText_union (depth : Nat) (members : List Schema) : typeText depth (.union members) =
    Text.joinWith [' ', '|', ' '] (typeTexts depth members).eraseDups := rfl

end Schema

/-! ## Options -/

/-- How a declaration is written. -/
structure DeclarationOptions where
  /-- The name of the exported type. -/
  typeName : String
  /-- Whether the properties of samples are required. -/
  strictProperties : Bool
  /-- The comment above the declaration; none if it is empty. -/
  bannerComment : String

namespace DeclarationOptions

/-- What is used for everything that is not given. -/
def standard : DeclarationOptions := ⟨"Root", false, "/* eslint-disable */"⟩

/-- An optional part: absent, or of the right type. -/
def optional? {α : Type} (fallback : α) (read : Json → Option α) : Option Json → Option α
  | none => some fallback
  | some value => read value

/-- Reads options from an object with the keys `typeName`, `strictProperties` and
`bannerComment`, or from a list with at most these three parts. -/
def ofJson? (value : Json) : Option DeclarationOptions :=
  let build (name strict banner : Option Json) : Option DeclarationOptions := do
    let name ← optional? standard.typeName Json.asString? name
    let strict ← optional? standard.strictProperties Json.asBool? strict
    let banner ← optional? standard.bannerComment Json.asString? banner
    some ⟨name, strict, banner⟩
  match value with
  | .obj entries =>
    let entries : Entries Json := entries
    build (entries.find? "typeName") (entries.find? "strictProperties")
      (entries.find? "bannerComment")
  | .arr parts => if parts.length ≤ 3 then build parts[0]? parts[1]? parts[2]? else none
  | _ => none

end DeclarationOptions

/-! ## Declarations -/

namespace Schema

/-- An exported interface. -/
def interfaceText (name : List Char) (object : Schema) : List Char :=
  "export interface ".toList ++ name ++ [' '] ++ typeText 0 object

/-- An exported name for a type expression. -/
def aliasText (name type : List Char) : List Char :=
  "export type ".toList ++ name ++ " = ".toList ++ type

/-- The declaration without the banner.  An object becomes an interface, an array of objects an
interface for its items and an alias, and anything else an alias. -/
def declarationBody (name : List Char) : Schema → List Char
  | .object properties required isOpen => interfaceText name (.object properties required isOpen)
  | .array (some (.object properties required isOpen)) =>
    let itemName := name ++ "Item".toList
    interfaceText itemName (.object properties required isOpen) ++ ['\n', '\n'] ++
      aliasText name (itemName ++ ['[', ']'])
  | other => aliasText name (typeText 0 other)

/-- The declaration of a schema. -/
def declaration (options : DeclarationOptions) (schema : Schema) : String :=
  let banner := options.bannerComment.toList
  let body := declarationBody options.typeName.toList schema ++ ['\n']
  String.ofList (if banner.isEmpty then body else banner ++ ['\n', '\n'] ++ body)

/-- The declaration of the schema of a sample. -/
def sampleDeclaration (options : DeclarationOptions) (sample : Json) : String :=
  declaration options (infer options.strictProperties sample)

end Schema

end ApiToolkit
