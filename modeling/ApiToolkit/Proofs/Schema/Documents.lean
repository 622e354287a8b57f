import ApiToolkit.Proofs.Schema.Inference
import ApiToolkit.Schema.JsonSchema
/-!
# What documents are read as

A document is read keyword by keyword.  Some of its parts are documents again, some are samples, and
only a few keywords make a node of the schema by themselves.

## What is inside

- `Schema.ofJsonSchema_obj`, `Schema.ofArray_eq`: reading, one keyword at a time.
- `Schema.listed?`, `Schema.ofJsonSchema_of_listed?`: the alternatives that a document lists.
- `Schema.ReadStable`, `Schema.everywhere_ofJsonSchema`: what holds at the nodes that reading makes
  and at the unions that documents list holds at every node.
-/

namespace ApiToolkit.Schema

/-! ## One keyword at a time -/

theorem ofJsonSchemas_eq_map (documents : List Json) :
    ofJsonSchemas documents = documents.map ofJsonSchema := by
  induction documents with
  | nil => rw [ofJsonSchemas]; rfl
  | cons document rest ih => rw [ofJsonSchemas, ih, List.map_cons]

theorem ofProperties_eq_map (documents : Entries Json) :
    ofProperties documents = documents.map fun entry => (entry.1, ofJsonSchema entry.2) := by
  induction documents with
  | nil => rw [ofProperties]; rfl
  | cons entry rest ih =>
    obtain ⟨name, document⟩ := entry
    rw [ofProperties, ih, List.map_cons]

/-- A document is read by the keyword that decides. -/
theorem ofJsonSchema_obj (node : Entries Json) :
    ofJsonSchema (.obj node) =
      match reading node with
      | .unknown => .any
      | .alternatives documents => ofAlternatives (documents.map ofJsonSchema)
      | .sample value => infer false value
      | .samples values => merge (inferAll false values)
      | .types names => ofAlternatives (names.map (ofType node))
      | .object => ofObject node
      | .array => ofArray node := by
  rw [ofJsonSchema]
  split <;> simp_all [ofJsonSchemas_eq_map]

/-- What is no object says nothing. -/
theorem ofJsonSchema_of_ne_obj {document : Json} (h : ∀ node, document ≠ .obj node) :
    ofJsonSchema document = .any := by
  rw [ofJsonSchema]
  exact h

theorem ofArray_eq (node : Entries Json) :
    ofArray node =
      match node.find? "items" with
      | some (.arr documents) => .array (some (merge (documents.map ofJsonSchema)))
      | some document => .array (some (ofJsonSchema document))
      | none => .array none := by
  rw [ofArray]
  split <;> simp_all [ofJsonSchemas_eq_map]

/-! ## Listed alternatives -/

theorem ofAlternatives_of_several {schemas : List Schema} (h : 2 ≤ schemas.length) :
    ofAlternatives schemas = .union schemas := by
  match schemas, h with
  | _ :: _ :: _, _ => rfl

/-- The alternatives that a document lists: those of a combinator, or its types. -/
def listed? (node : Entries Json) : Option (List Schema) :=
  match reading node with
  | .alternatives documents => some (documents.map ofJsonSchema)
  | .types names => some (names.map (ofType node))
  | _ => none

/-- Several alternatives that a document lists stay as they are listed. -/
theorem ofJsonSchema_of_listed? {node : Entries Json} {alternatives : List Schema}
    (h : listed? node = some alternatives) (several : 2 ≤ alternatives.length) :
    ofJsonSchema (.obj node) = .union alternatives := by
  rw [ofJsonSchema_obj]
  unfold listed? at h
  split at h
  next documents hreading =>
    cases h
    rw [hreading]
    exact ofAlternatives_of_several several
  next names hreading =>
    cases h
    rw [hreading]
    exact ofAlternatives_of_several several
  next => cases h

/-! ## Properties of every node -/

/-- A property that every node made by reading has, apart from listed unions. -/
structure ReadStable (P : Schema → Prop) : Prop extends MergeStable P where
  primitive : ∀ type, P (.primitive type)
  emptyArray : P (.array none)
  sample : ∀ entries, P (infer false (.obj entries))
  document : ∀ node, P (ofObject node)

section Parts

variable {P : Schema → Prop}

theorem everywhere_ofAlternatives (hP : ReadStable P) {schemas : List Schema}
    (h : ∀ s ∈ schemas, Everywhere P s) (hunion : 2 ≤ schemas.length → P (.union schemas)) :
    Everywhere P (ofAlternatives schemas) := by
  match schemas with
  | [] => exact .node hP.any (List.forall_mem_nil _)
  | [only] => exact h only (List.mem_singleton_self only)
  | first :: second :: rest =>
    have hlength : 2 ≤ (first :: second :: rest).length := by simp
    exact .node (hunion hlength) h

variable {node : Entries Json}
  (parts : ∀ value ∈ (Json.obj node).children, ∀ part, part.Within value →
    Everywhere P (ofJsonSchema part))

include parts

theorem everywhere_ofObject (hP : ReadStable P) : Everywhere P (ofObject node) := by
  have hobject := hP.document node
  rw [ofObject, ofProperties_eq_map] at hobject ⊢
  refine .node hobject fun child hchild => ?_
  simp only [children, List.map_map, List.mem_map] at hchild
  obtain ⟨entry, hentry, rfl⟩ := hchild
  unfold propertyDocuments at hentry
  split at hentry
  next properties hfind =>
    have hinner : entry.2 ∈ (Json.obj properties).children := List.mem_map_of_mem hentry
    exact parts _ (Json.mem_children_of_find? hfind) _ (.single hinner)
  next => cases hentry

theorem everywhere_ofArray (hP : ReadStable P) : Everywhere P (ofArray node) := by
  rw [ofArray_eq]
  split
  next documents hfind =>
    refine .node (hP.array _) fun child hchild => ?_
    rw [children, List.mem_singleton] at hchild
    rw [hchild]
    refine everywhere_merge hP.toMergeStable fun s hs => ?_
    obtain ⟨document, hdocument, rfl⟩ := List.mem_map.mp hs
    exact parts _ (Json.mem_children_of_find? hfind) _ (.single hdocument)
  next document _ hfind =>
    refine .node (hP.array _) fun child hchild => ?_
    rw [children, List.mem_singleton] at hchild
    rw [hchild]
    exact parts _ (Json.mem_children_of_find? hfind) _ .refl
  next => exact .node hP.emptyArray (List.forall_mem_nil _)

theorem everywhere_ofType (hP : ReadStable P) (name : String) :
    Everywhere P (ofType node name) := by
  rw [ofType]
  split
  · exact everywhere_ofObject parts hP
  · split
    · exact everywhere_ofArray parts hP
    · split
      · exact .node (hP.primitive _) (List.forall_mem_nil _)
      · exact .node hP.any (List.forall_mem_nil _)

end Parts

/-- What holds at the nodes that reading makes and at the unions that the document and the objects
inside it list holds at every node of the schema that the document is read as. -/
theorem everywhere_ofJsonSchema {P : Schema → Prop} (hP : ReadStable P) {document : Json}
    (hlisted : ∀ node alternatives, (Json.obj node).Within document →
      listed? node = some alternatives → 2 ≤ alternatives.length → P (.union alternatives)) :
    Everywhere P (ofJsonSchema document) := by
  have hany : Everywhere P .any := .node hP.any (List.forall_mem_nil _)
  have hsample := everywhere_infer_of_forall false hP.toMergeStable
    (fun type _ => hP.primitive type) hP.sample
  induction document using Json.within_induction with
  | step document ih =>
    cases document with
    | obj node =>
      -- What is listed inside a part is listed inside the document.
      have parts : ∀ value ∈ (Json.obj node).children, ∀ part, part.Within value →
          Everywhere P (ofJsonSchema part) := fun value hvalue part hpart =>
        ih value hvalue part hpart fun inner alternatives hinner =>
          hlisted inner alternatives (hinner.trans (hpart.tail hvalue))
      rw [ofJsonSchema_obj]
      split
      next => exact hany
      next documents hreading =>
        refine everywhere_ofAlternatives hP (fun s hs => ?_) fun several => ?_
        · obtain ⟨part, hpart, rfl⟩ := List.mem_map.mp hs
          obtain ⟨keyword, hfind⟩ := exists_find?_of_reading hreading
          exact parts _ (Json.mem_children_of_find? hfind) part (.single hpart)
        · exact hlisted node _ .refl (by rw [listed?, hreading]) several
      next value _ => exact hsample value
      next values =>
        rw [inferAll_eq_map]
        refine everywhere_merge hP.toMergeStable fun s hs => ?_
        obtain ⟨value, -, rfl⟩ := List.mem_map.mp hs
        exact hsample value
      next names hreading =>
        refine everywhere_ofAlternatives hP (fun s hs => ?_) fun several => ?_
        · obtain ⟨name, -, rfl⟩ := List.mem_map.mp hs
          exact everywhere_ofType parts hP name
        · exact hlisted node _ .refl (by rw [listed?, hreading]) several
      next => exact everywhere_ofObject parts hP
      next => exact everywhere_ofArray parts hP
    | _ =>
      rw [ofJsonSchema_of_ne_obj]
      · exact hany
      · exact nofun

end ApiToolkit.Schema
