import ApiToolkit.Proofs.Schema.Documents
import ApiToolkit.Proofs.Schema.Tidy
/-!
# Unions that documents list

A union is meant to have one primitive of each type at most.  Merging sees to that, but alternatives
that a document lists are not merged: those of a combinator and the names of a list of types become
a union as they stand.

## What is inside

- `Schema.DistinctNode`, `Schema.ListedNode`: unions without repeated types, and unions that a
  document lists.
- `Schema.distinct_or_listed`: where a repeated type can come from.
- `Schema.not_distinct_twoFormats`: a document that lists a type twice.
-/

namespace ApiToolkit.Schema

/-! ## Unions at a node -/

/-- A union has no two primitives of one type. -/
def DistinctNode : Schema → Prop
  | .union alternatives => DistinctTypes alternatives
  | _ => True

/-- The node is a union that the document, or an object inside it, lists as it stands. -/
def ListedNode (document : Json) : Schema → Prop
  | .union alternatives =>
    ∃ node, (Json.obj node).Within document ∧ listed? node = some alternatives
  | _ => False

/-- Nothing else that reading and merging make repeats a type. -/
theorem readStable_distinct_or_listed (document : Json) :
    ReadStable fun s => DistinctNode s ∨ ListedNode document s where
  any := .inl trivial
  object _ := .inl trivial
  array _ := .inl trivial
  union _ _ several hno hj := .inl (tidyAlternatives_of_joined several hno hj).distinct
  primitive _ := .inl trivial
  emptyArray := .inl trivial
  sample _ := .inl trivial
  document node := by
    rw [ofObject]
    exact .inl trivial

/-! ## Documents -/

/-- **Repeated types**: in the schema of a document only the unions that the document lists repeat a
type, and what a document lists is always taken over as it stands. -/
theorem distinct_or_listed (document : Json) :
    Everywhere (fun s => DistinctNode s ∨ ListedNode document s) (ofJsonSchema document) ∧
    ∀ node alternatives, listed? node = some alternatives → 2 ≤ alternatives.length →
      ofJsonSchema (.obj node) = .union alternatives := by
  constructor
  · refine everywhere_ofJsonSchema (readStable_distinct_or_listed document) ?_
    intro node alternatives hwithin hlisted _
    exact .inr ⟨node, hwithin, hlisted⟩
  · intro node alternatives hlisted several
    exact ofJsonSchema_of_listed? hlisted several

/-- A document for strings of two formats.  Formats are not a part of schemas. -/
def twoFormats : Entries Json :=
  [("anyOf", .arr [.obj [("type", .str "string"), ("format", .str "date")],
    .obj [("type", .str "string"), ("format", .str "uuid")]])]

theorem listed?_twoFormats :
    listed? twoFormats = some [.primitive .string, .primitive .string] := by
  have hstring : ∀ format, ofJsonSchema (.obj [("type", .str "string"), ("format", format)]) =
      .primitive .string := by
    intro format
    have hreading : reading [("type", .str "string"), ("format", format)] = .types ["string"] := rfl
    rw [ofJsonSchema_obj, hreading]
    simp [ofType, ofAlternatives, Primitive.ofName?, Primitive.name]
  have hreading : reading twoFormats = .alternatives
      [.obj [("type", .str "string"), ("format", .str "date")],
        .obj [("type", .str "string"), ("format", .str "uuid")]] := rfl
  rw [listed?, hreading]
  simp only [List.map_cons, List.map_nil, hstring]

theorem distinct_or_listed_twoFormats :
    listed? twoFormats = some [.primitive .string, .primitive .string] ∧
    ofJsonSchema (.obj twoFormats) = .union [.primitive .string, .primitive .string] :=
  ⟨listed?_twoFormats,
    (distinct_or_listed (.obj twoFormats)).2 twoFormats _ listed?_twoFormats (by decide)⟩

/-- The union of that document has two strings. -/
theorem not_distinct_twoFormats : ¬ Everywhere DistinctNode (ofJsonSchema (.obj twoFormats)) := by
  rw [ofJsonSchema_of_listed? listed?_twoFormats (by decide)]
  intro h
  have hdistinct : DistinctTypes [.primitive .string, .primitive .string] := h.here
  revert hdistinct
  decide

end ApiToolkit.Schema
