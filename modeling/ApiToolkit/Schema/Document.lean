import ApiToolkit.Schema.JsonSchema
/-!
# Wrapped JSON Schema documents

An object with `isSchema: true` and a `jsonSchema` wraps a JSON Schema document.

## What is inside

- `WrappedDocument`: the wrapper, read from and written as a value.
- `WrappedDocument.unwrap`: takes a wrapper off, if there is one.
-/

namespace ApiToolkit

/-- A JSON Schema document with its mark. -/
structure WrappedDocument where
  /-- The mark. -/
  isSchema : Bool
  /-- The document. -/
  jsonSchema : Json

namespace WrappedDocument

/-- Marks a document. -/
def wrap (document : Json) : WrappedDocument := ⟨true, document⟩

/-- Whether a value carries the mark. -/
def isMarked (value : Json) : Bool := (value.field? "isSchema").bind Json.asBool? == some true

/-- Whether a value is a wrapper. -/
def isWrapper (value : Json) : Bool := isMarked value && (value.field? "jsonSchema").isSome

/-- Reads a wrapper. -/
def ofJson? (value : Json) : Option WrappedDocument :=
  if isMarked value then (value.field? "jsonSchema").map wrap else none

/-- The schema that the document describes. -/
def toSchema (document : WrappedDocument) : Schema := Schema.ofJsonSchema document.jsonSchema

/-- Writes the wrapper. -/
def toJson (document : WrappedDocument) : Json :=
  .obj [("isSchema", .bool document.isSchema), ("jsonSchema", document.jsonSchema)]

/-- The document in a wrapper; any other value is kept. -/
def unwrap (value : Json) : Json :=
  if isMarked value then (value.field? "jsonSchema").getD value else value

end WrappedDocument

end ApiToolkit
