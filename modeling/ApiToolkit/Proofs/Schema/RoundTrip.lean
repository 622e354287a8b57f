import ApiToolkit.Proofs.Schema.Documents
/-!
# Schemas survive being written as JSON Schema

## What is inside

- `Schema.WellFormed`: unions have several alternatives, and required names are declared.
- `Schema.ofJsonSchema_toJsonSchema`: well-formed schemas are read back as they were.
- `Schema.wellFormed_infer`, `Schema.wellFormed_merge`, `Schema.wellFormed_ofJsonSchema`: all
  schemas that are made here are well-formed.
-/

namespace ApiToolkit.Schema

/-! ## Well-formed schemas -/

/-- What makes a node well-formed.  The required names of an object are a set of declared names, and
a union has several alternatives. -/
def WellFormedNode : Schema → Prop
  | .object properties required _ =>
    (∀ name ∈ required, Entries.has properties name = true) ∧ required.Nodup
  | .union alternatives => 2 ≤ alternatives.length
  | .any | .primitive _ | .array _ => True

/-- A schema is well-formed if all its nodes are. -/
def WellFormed (schema : Schema) : Prop := Everywhere WellFormedNode schema

theorem wellFormed_any : WellFormed .any := .node trivial (by simp [children])

theorem wellFormed_primitive (type : Primitive) : WellFormed (.primitive type) :=
  .node trivial (by simp [children])

/-! ## Lists of parts -/

theorem toJsonSchemas_eq_map (schemas : List Schema) :
    toJsonSchemas schemas = schemas.map toJsonSchema := by
  induction schemas with
  | nil => rfl
  | cons schema rest ih => rw [toJsonSchemas, ih, List.map_cons]

theorem toProperties_eq_map (properties : Entries Schema) :
    toProperties properties = properties.map fun entry => (entry.1, toJsonSchema entry.2) := by
  induction properties with
  | nil => rfl
  | cons entry rest ih =>
    obtain ⟨name, schema⟩ := entry
    rw [toProperties, ih, List.map_cons]

/-! ## Reading what was written -/

theorem strings_map_str (names : List String) : strings (names.map .str) = names := by
  rw [strings, List.filterMap_map]
  exact List.filterMap_some

/-- The keywords of a document that an object is written as. -/
def objectNode (properties : Entries Schema) (required : List String) (isOpen : Bool) :
    Entries Json :=
  [("type", .str "object"), ("properties", .obj (toProperties properties))] ++
    (if required.isEmpty then [] else [("required", .arr (required.map .str))]) ++
    [("additionalProperties", .bool isOpen)]

section Object

variable (properties : Entries Schema) (required : List String) (isOpen : Bool)

theorem reading_objectNode :
    reading (objectNode properties required isOpen) = .types ["object"] := by
  cases required <;> rfl

theorem propertyDocuments_objectNode :
    propertyDocuments (objectNode properties required isOpen) = toProperties properties := rfl

theorem allowsOthers_objectNode :
    allowsOthers (objectNode properties required isOpen) = isOpen := by
  cases required <;> rfl

theorem listAt?_required_objectNode :
    (listAt? (objectNode properties required isOpen) "required").getD [] = required.map .str := by
  cases required <;> rfl

/-- Required names that are a set of declared names are read back. -/
theorem requiredNames_objectNode (hdeclared : ∀ name ∈ required, properties.has name = true)
    (hnodup : required.Nodup) :
    requiredNames (objectNode properties required isOpen) = required := by
  rw [requiredNames, listAt?_required_objectNode, strings_map_str, propertyDocuments_objectNode,
    toProperties_eq_map]
  have hkeep : required.filter
      (Entries.has (properties.map fun entry => (entry.1, toJsonSchema entry.2))) = required := by
    rw [List.filter_eq_self]
    intro name hname
    have hhas := hdeclared name hname
    rw [Entries.has] at hhas ⊢
    rwa [Entries.find?_map_values, Option.isSome_map]
  rw [hkeep, eraseDups_of_nodup hnodup]

end Object

theorem exists_node_toJsonSchema (schema : Schema) : ∃ node, toJsonSchema schema = .obj node := by
  cases schema with
  | any => exact ⟨_, rfl⟩
  | primitive type => exact ⟨_, rfl⟩
  | object properties required isOpen => exact ⟨_, rfl⟩
  | array items => cases items <;> exact ⟨_, rfl⟩
  | union alternatives => exact ⟨_, rfl⟩

/-- **Round trip**: a well-formed schema is read back from the document that it is written as. -/
theorem ofJsonSchema_toJsonSchema {schema : Schema} (h : schema.WellFormed) :
    ofJsonSchema (toJsonSchema schema) = schema := by
  induction h with
  | @node schema here below ih =>
    cases schema with
    | any =>
      rw [toJsonSchema, ofJsonSchema_obj]
      rfl
    | primitive type =>
      have hreading : reading [("type", .str type.name)] = .types [type.name] := rfl
      rw [toJsonSchema, ofJsonSchema_obj, hreading]
      cases type <;> simp [ofAlternatives, ofType, Primitive.name, Primitive.ofName?]
    | object properties required isOpen =>
      -- The type is the keyword that decides, whichever of the other keywords are written.
      have hdocument : toJsonSchema (.object properties required isOpen) =
          .obj (objectNode properties required isOpen) := rfl
      have hproperties : ofProperties (toProperties properties) = properties := by
        rw [toProperties_eq_map, ofProperties_eq_map, List.map_map]
        conv_rhs => rw [← List.map_id properties]
        refine List.map_congr_left fun entry hentry => ?_
        have hchild := ih entry.2 (List.mem_map.mpr ⟨entry, hentry, rfl⟩)
        simp [hchild]
      rw [hdocument, ofJsonSchema_obj, reading_objectNode]
      simp only [List.map_cons, List.map_nil, ofAlternatives]
      rw [ofType, if_pos rfl, ofObject, propertyDocuments_objectNode, hproperties,
        requiredNames_objectNode properties required isOpen here.1 here.2, allowsOthers_objectNode]
    | array items =>
      cases items with
      | none =>
        have hreading : reading [("type", .str "array")] = .types ["array"] := rfl
        rw [toJsonSchema, ofJsonSchema_obj, hreading]
        simp only [List.map_cons, List.map_nil, ofAlternatives]
        rw [ofType, if_neg (by decide), if_pos rfl, ofArray_eq]
        rfl
      | some items =>
        have hreading : reading [("type", .str "array"), ("items", toJsonSchema items)] =
          .types ["array"] := rfl
        have hitems :
            Entries.find? [("type", .str "array"), ("items", toJsonSchema items)] "items" =
              some (toJsonSchema items) := rfl
        have hback := ih items (List.mem_singleton_self items)
        rw [toJsonSchema, ofJsonSchema_obj, hreading]
        simp only [List.map_cons, List.map_nil, ofAlternatives]
        rw [ofType, if_neg (by decide), if_pos rfl, ofArray_eq, hitems]
        -- The item document is an object, so it is not taken for a list of documents.
        obtain ⟨node, hnode⟩ := exists_node_toJsonSchema items
        rw [hnode] at hback ⊢
        simp only [hback]
    | union alternatives =>
      -- A single alternative would be read back without the union around it.
      have hlength : 2 ≤ alternatives.length := here
      have hreading : reading [("anyOf", .arr (alternatives.map toJsonSchema))] =
        .alternatives (alternatives.map toJsonSchema) := rfl
      rw [toJsonSchema, toJsonSchemas_eq_map, ofJsonSchema_obj, hreading]
      have hback : (alternatives.map toJsonSchema).map ofJsonSchema = alternatives := by
        rw [List.map_map]
        conv_rhs => rw [← List.map_id alternatives]
        exact List.map_congr_left fun s hs => ih s hs
      simp only [hback]
      exact ofAlternatives_of_several hlength

/-! ## All schemas made here are well-formed -/

theorem two_le_length_of_joined {schemas alternatives : List Schema}
    (hno : ∀ s ∈ schemas, s ≠ .union alternatives) (h : Joined schemas (.union alternatives)) :
    2 ≤ alternatives.length := by
  rcases alternatives_of_joined h hno with ⟨-, several, -⟩ | ⟨rfl, hne⟩
  · exact several
  · have hpos := List.length_pos_iff.mpr hne
    rw [List.length_append, List.length_singleton]
    omega

theorem mergeStable_wellFormedNode : MergeStable WellFormedNode where
  any := trivial
  object objects := by
    have hnames : (propertyNames objects).Nodup := nodup_eraseDups _
    refine ⟨fun name hname => ?_, hnames.filter _⟩
    rw [Entries.has, Entries.find?_map_names, if_pos (List.mem_of_mem_filter hname)]
    rfl
  array items := trivial
  union schemas alternatives _ hno hj :=
    two_le_length_of_joined (fun s hs => hno s hs alternatives) hj

theorem wellFormed_merge {schemas : List Schema} (h : ∀ s ∈ schemas, s.WellFormed) :
    (merge schemas).WellFormed :=
  everywhere_merge mergeStable_wellFormedNode h

/-- The schema of a sample is well-formed. -/
theorem wellFormed_infer (strict : Bool) {sample : Json} (h : sample.Distinct) :
    (infer strict sample).WellFormed := by
  refine everywhere_infer strict mergeStable_wellFormedNode (fun type _ => trivial) ?_ h
  intro entries hnodup
  have hkeys := keys_inferProperties strict entries
  cases strict with
  | false => exact ⟨fun name hname => absurd hname List.not_mem_nil, List.nodup_nil⟩
  | true =>
    -- All keys are required, so they must not be repeated.
    refine ⟨fun name hname => Entries.has_iff.mpr hname, ?_⟩
    rw [← hkeys] at hnodup
    exact hnodup

theorem readStable_wellFormedNode : ReadStable WellFormedNode where
  toMergeStable := mergeStable_wellFormedNode
  primitive _ := trivial
  emptyArray := trivial
  -- Where no property is required repeated keys do no harm.
  sample _ := ⟨fun name hname => absurd hname List.not_mem_nil, List.nodup_nil⟩
  document node := by
    rw [ofObject]
    refine ⟨fun name hname => ?_, nodup_eraseDups _⟩
    rw [requiredNames, List.mem_eraseDups] at hname
    have hhas := (List.mem_filter.mp hname).2
    rw [Entries.has] at hhas
    rwa [Entries.has, ofProperties_eq_map, Entries.find?_map_values, Option.isSome_map]

/-- Whatever a document says, it is read as a well-formed schema. -/
theorem wellFormed_ofJsonSchema (document : Json) : (ofJsonSchema document).WellFormed :=
  everywhere_ofJsonSchema readStable_wellFormedNode fun _ _ _ _ several => several

end ApiToolkit.Schema
