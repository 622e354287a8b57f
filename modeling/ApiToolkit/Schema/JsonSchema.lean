import ApiToolkit.Schema.Inference
/-!
# JSON Schema documents

The structural part of JSON Schema is read as a schema, and schemas are written as JSON Schema.

## What is inside

- `Schema.Reading`: the keyword of a document that decides what it describes.
- `Schema.ofJsonSchema`: reads a document; what cannot be interpreted is unknown.
- `Schema.toJsonSchema`: writes a document.
-/

namespace ApiToolkit.Schema

/-! ## Which keyword decides -/

/-- What a document describes, by the keyword that decides it. -/
inductive Reading where
  /-- Nothing that could be interpreted. -/
  | unknown
  /-- Alternatives, given as documents. -/
  | alternatives (documents : List Json)
  /-- One sample. -/
  | sample (value : Json)
  /-- Several samples. -/
  | samples (values : List Json)
  /-- Types, given by their names. -/
  | types (names : List String)
  /-- An object. -/
  | object
  /-- An array. -/
  | array

/-- The list under a keyword. -/
def listAt? (node : Entries Json) (keyword : String) : Option (List Json) :=
  match node.find? keyword with
  | some (.arr items) => some items
  | _ => none

/-- The strings among some values. -/
def strings (values : List Json) : List String := values.filterMap Json.asString?

/-- Finds the keyword that decides.  Combinators come first, then fixed values, then types, and
last the keywords that only make sense for one type. -/
def reading (node : Entries Json) : Reading :=
  -- A combinator that is no list is passed over.
  match (listAt? node "anyOf").or (listAt? node "oneOf") with
  | some documents => .alternatives documents
  | none =>
    match node.find? "const" with
    | some value => .sample value
    | none =>
      match listAt? node "enum" with
      | some values => .samples values
      | none =>
        match node.find? "type" with
        | some (.str name) => .types [name]
        | some (.arr names) => .types (strings names)
        | _ =>
          if node.has "properties" then .object
          else if node.has "items" then .array
          else .unknown

/-- The properties that a document declares, as documents. -/
def propertyDocuments (node : Entries Json) : Entries Json :=
  match node.find? "properties" with
  | some (.obj properties) => properties
  | _ => []

/-- The required names of a document that are declared. -/
def requiredNames (node : Entries Json) : List String :=
  ((strings ((listAt? node "required").getD [])).filter (propertyDocuments node).has).eraseDups

/-- Whether a document allows undeclared properties.  Unless it says so, it does if it declares
none. -/
def allowsOthers (node : Entries Json) : Bool :=
  match node.find? "additionalProperties" with
  | some (.bool value) => value
  | some _ => true
  | none => (propertyDocuments node).isEmpty

/-- Alternatives as one schema. -/
def ofAlternatives (schemas : List Schema) : Schema :=
  match schemas with
  | [] => .any
  | [only] => only
  | several => .union several

/-! ## Parts are smaller -/

/-- A value under a keyword is smaller than the document. -/
theorem sizeOf_lt_of_find? {node : Entries Json} {name : String} {value : Json}
    (h : node.find? name = some value) : sizeOf value < sizeOf node := by
  induction node with
  | nil => simp [Entries.find?] at h
  | cons entry rest ih =>
    obtain ⟨key, first⟩ := entry
    simp only [Entries.find?] at h
    split at h
    · cases h
      simp
      omega
    · have := ih h
      simp
      omega

theorem find?_of_listAt? {node : Entries Json} {name : String} {values : List Json}
    (h : listAt? node name = some values) : node.find? name = some (.arr values) := by
  unfold listAt? at h
  split at h
  · next found =>
    cases h
    exact found
  · cases h

/-- The alternatives of a document stand under one of its keywords. -/
theorem exists_find?_of_reading {node : Entries Json} {documents : List Json}
    (h : reading node = .alternatives documents) :
    ∃ keyword, node.find? keyword = some (.arr documents) := by
  unfold reading at h
  split at h
  · next found =>
    cases h
    rcases Option.or_eq_some_iff.mp found with hAny | ⟨-, hOne⟩
    · exact ⟨_, find?_of_listAt? hAny⟩
    · exact ⟨_, find?_of_listAt? hOne⟩
  · -- The other keywords are read in other ways.
    repeat' split at h
    all_goals cases h

/-- The alternatives of a document are smaller than it. -/
theorem sizeOf_lt_of_reading {node : Entries Json} {documents : List Json}
    (h : reading node = .alternatives documents) : sizeOf documents < sizeOf node := by
  obtain ⟨keyword, hfind⟩ := exists_find?_of_reading h
  have := sizeOf_lt_of_find? hfind
  simp at this
  omega

/-- The documents of properties are no larger than the document around them. -/
theorem sizeOf_propertyDocuments_le (node : Entries Json) :
    sizeOf (propertyDocuments node) ≤ sizeOf node := by
  unfold propertyDocuments
  split
  · next found =>
    have := sizeOf_lt_of_find? found
    simp at this
    omega
  · cases node with
    | nil => simp
    | cons entry rest => simp; omega

/-! ## Reading -/

mutual

/-- Reads a JSON Schema document. -/
def ofJsonSchema (document : Json) : Schema :=
  match document with
  | .obj node =>
    match h : reading node with
    | .unknown => .any
    | .alternatives documents =>
      have := sizeOf_lt_of_reading h
      ofAlternatives (ofJsonSchemas documents)
    | .sample value => infer false value
    | .samples values => merge (inferAll false values)
    | .types names => ofAlternatives (names.map (ofType node))
    | .object => ofObject node
    | .array => ofArray node
  | _ => .any
termination_by (sizeOf document, 0)

/-- Reads several documents. -/
def ofJsonSchemas (documents : List Json) : List Schema :=
  match documents with
  | [] => []
  | document :: rest => ofJsonSchema document :: ofJsonSchemas rest
termination_by (sizeOf documents, 0)

/-- Reads a document as a value of the type with this name. -/
def ofType (node : Entries Json) (name : String) : Schema :=
  if name = "object" then ofObject node
  else if name = "array" then ofArray node
  else
    match Primitive.ofName? name with
    | some type => .primitive type
    | none => .any
termination_by (sizeOf node, 2)

/-- Reads a document that describes an object. -/
def ofObject (node : Entries Json) : Schema :=
  have := sizeOf_propertyDocuments_le node
  .object (ofProperties (propertyDocuments node)) (requiredNames node) (allowsOthers node)
termination_by (sizeOf node, 1)
decreasing_by
  rcases Nat.lt_or_eq_of_le this with h | h
  · exact Prod.Lex.left _ _ h
  · rw [h]
    exact Prod.Lex.right _ (by decide)

/-- Reads the documents of properties. -/
def ofProperties (properties : Entries Json) : Entries Schema :=
  match properties with
  | [] => []
  | (name, document) :: rest => (name, ofJsonSchema document) :: ofProperties rest
termination_by (sizeOf properties, 0)

/-- Reads a document that describes an array.  The item documents of a tuple are merged. -/
def ofArray (node : Entries Json) : Schema :=
  match h : node.find? "items" with
  | some (.arr documents) =>
    have : sizeOf documents < sizeOf node := by
      have := sizeOf_lt_of_find? h
      simp at this
      omega
    .array (some (merge (ofJsonSchemas documents)))
  | some document =>
    have := sizeOf_lt_of_find? h
    .array (some (ofJsonSchema document))
  | none => .array none
termination_by (sizeOf node, 1)

end

/-! ## Writing -/

mutual

/-- Writes a schema as a JSON Schema document. -/
def toJsonSchema : Schema → Json
  | .any => .obj []
  | .primitive type => .obj [("type", .str type.name)]
  | .object properties required isOpen =>
    .obj ([("type", .str "object"), ("properties", .obj (toProperties properties))] ++
      (if required.isEmpty then [] else [("required", .arr (required.map .str))]) ++
      [("additionalProperties", .bool isOpen)])
  | .array (some items) => .obj [("type", .str "array"), ("items", toJsonSchema items)]
  | .array none => .obj [("type", .str "array")]
  | .union alternatives => .obj [("anyOf", .arr (toJsonSchemas alternatives))]

/-- Writes several schemas. -/
def toJsonSchemas : List Schema → List Json
  | [] => []
  | schema :: rest => toJsonSchema schema :: toJsonSchemas rest

/-- Writes the schemas of properties. -/
def toProperties : List (String × Schema) → List (String × Json)
  | [] => []
  | (name, schema) :: rest => (name, toJsonSchema schema) :: toProperties rest

end

end ApiToolkit.Schema
