import ApiToolkit.Proofs.Schema.Settled
/-!
# What strictness changes

A strict schema requires all properties of a sample, and one that is not strict requires none.
Merging never looks at what is required except to find out what the merged object requires, so the
two differ in nothing else.

## What is inside

- `Schema.relax`: the schema with nothing required.
- `Schema.relax_merge`, `Schema.relax_infer`: relaxing before or after merging, and strict samples.
- `Schema.merge_infer_objects`: what objects are merged into when all their keys are required.
- `Schema.strictness_of_samples`: the two settings compared.
-/

namespace ApiToolkit.Schema

/-! ## Schemas that require nothing -/

mutual

/-- The schema with nothing required, at any depth. -/
def relax : Schema → Schema
  | .any => .any
  | .primitive type => .primitive type
  | .object properties _ isOpen => .object (relaxProperties properties) [] isOpen
  | .array none => .array none
  | .array (some items) => .array (some (relax items))
  | .union members => .union (relaxAll members)

/-- Several schemas with nothing required. -/
def relaxAll : List Schema → List Schema
  | [] => []
  | schema :: rest => relax schema :: relaxAll rest

/-- Properties whose schemas require nothing. -/
def relaxProperties : List (String × Schema) → List (String × Schema)
  | [] => []
  | (name, schema) :: rest => (name, relax schema) :: relaxProperties rest

end

/-- An object that requires nothing, nor do its properties. -/
def Shape.relax (object : Shape) : Shape := ⟨relaxProperties object.properties, []⟩

theorem relaxAll_eq_map (schemas : List Schema) : relaxAll schemas = schemas.map relax := by
  induction schemas with
  | nil => rfl
  | cons schema rest ih => rw [relaxAll, ih, List.map_cons]

theorem relaxProperties_eq_map (properties : Entries Schema) :
    relaxProperties properties = properties.map fun entry => (entry.1, relax entry.2) := by
  induction properties with
  | nil => rfl
  | cons entry rest ih =>
    obtain ⟨name, schema⟩ := entry
    rw [relaxProperties, ih, List.map_cons]

theorem keys_relaxProperties (properties : Entries Schema) :
    Entries.keys (relaxProperties properties) = properties.keys := by
  rw [relaxProperties_eq_map, Entries.keys, Entries.keys, List.map_map]
  rfl

theorem children_relax (schema : Schema) : (relax schema).children = schema.children.map relax := by
  cases schema with
  | any => rfl
  | primitive type => rfl
  | object properties required isOpen =>
    rw [relax, relaxProperties_eq_map, children, children, List.map_map, List.map_map]
    rfl
  | array items => cases items <;> rfl
  | union members => exact relaxAll_eq_map members

/-- A node that requires nothing. -/
def RequiresNothing : Schema → Prop
  | .object _ required _ => required = []
  | _ => True

theorem everywhere_requiresNothing_relax (schema : Schema) :
    Everywhere RequiresNothing (relax schema) := by
  induction schema using children_induction with
  | step schema ih =>
    refine .node ?_ fun child hchild => ?_
    · cases schema with
      | array items => cases items <;> trivial
      | object properties required isOpen => exact Eq.refl []
      | _ => trivial
    · rw [children_relax] at hchild
      obtain ⟨original, horiginal, rfl⟩ := List.mem_map.mp hchild
      exact ih original horiginal

/-! ## Relaxing before merging -/

@[simp] theorem kind_relax (schema : Schema) : (relax schema).kind = schema.kind := by
  cases schema with
  | array items => cases items <;> rfl
  | _ => rfl

theorem alternatives_relax (schema : Schema) :
    alternatives (relax schema) = (alternatives schema).map relax := by
  induction schema using children_induction with
  | step schema ih =>
    cases schema with
    | union members =>
      rw [relax, alternatives, alternatives, relaxAll_eq_map, flatten_eq_flatMap,
        flatten_eq_flatMap, List.flatMap_map, List.map_flatMap]
      exact List.flatMap_congr ih
    | array items => cases items <;> rfl
    | _ => rfl

theorem flatten_map_relax (schemas : List Schema) :
    flatten (schemas.map relax) = (flatten schemas).map relax := by
  rw [flatten_eq_flatMap, flatten_eq_flatMap, List.flatMap_map, List.map_flatMap]
  exact List.flatMap_congr fun schema _ => alternatives_relax schema

theorem kinds_map_relax (schemas : List Schema) : kinds (schemas.map relax) = kinds schemas := by
  rw [kinds, kinds, List.map_map]
  congr 2
  funext schema
  exact kind_relax schema

theorem distinctKnown_map_relax (seen : List Primitive) (schemas : List Schema) :
    distinctKnown seen (schemas.map relax) = (distinctKnown seen schemas).map relax := by
  induction schemas generalizing seen with
  | nil => rfl
  | cons schema rest ih =>
    rw [List.map_cons]
    cases schema with
    | primitive type =>
      -- The places that are taken are the same before and after.
      rw [relax, distinctKnown, distinctKnown]
      split
      · exact ih seen
      · rw [ih, List.map_cons, relax]
    | array items => cases items <;> exact congrArg (_ :: ·) (ih seen)
    | object properties required isOpen => exact congrArg (_ :: ·) (ih seen)
    | any => exact ih seen
    | union members => exact ih seen

theorem relax_unionOf (schemas : List Schema) :
    relax (unionOf schemas) = unionOf (schemas.map relax) := by
  have hany : (schemas.map relax).any (fun s => s.kind == .unknown) =
      schemas.any fun s => s.kind == .unknown := by
    rw [List.any_map]
    congr 1
    funext schema
    rw [Function.comp_apply, kind_relax]
  rw [unionOf_eq, unionOf_eq, hany, distinctKnown_map_relax]
  split
  · rw [relax, relaxAll_eq_map, List.map_append]
    rfl
  · -- One known schema stands for itself, and several become a union.
    match distinctKnown [] schemas with
    | [] => rfl
    | [_] => rfl
    | _ :: _ :: _ => exact congrArg Schema.union (relaxAll_eq_map _)

theorem shapes_map_relax (schemas : List Schema) :
    shapes (schemas.map relax) = (shapes schemas).map Shape.relax := by
  induction schemas with
  | nil => rfl
  | cons schema rest ih =>
    rw [List.map_cons]
    cases schema with
    | object properties required isOpen => exact congrArg (_ :: ·) ih
    | array items => cases items <;> exact ih
    | _ => exact ih

theorem itemSchemas_map_relax (schemas : List Schema) :
    itemSchemas (schemas.map relax) = (itemSchemas schemas).map relax := by
  induction schemas with
  | nil => rfl
  | cons schema rest ih =>
    rw [List.map_cons]
    cases schema with
    | array items =>
      cases items with
      | none => exact ih
      | some items => exact congrArg (_ :: ·) ih
    | _ => exact ih

theorem propertyNames_map_relax (objects : List Shape) :
    propertyNames (objects.map Shape.relax) = propertyNames objects := by
  rw [propertyNames, propertyNames, List.flatMap_map]
  congr 2
  funext object
  exact keys_relaxProperties object.properties

theorem declared_map_relax (objects : List Shape) (name : String) :
    declared (objects.map Shape.relax) name = (declared objects name).map relax := by
  rw [declared, declared, List.filterMap_map, List.map_filterMap]
  congr 1
  funext object
  show Entries.find? (relaxProperties object.properties) name = _
  rw [relaxProperties_eq_map, Entries.find?_map_values]

/-- Objects that require nothing are merged into one that requires nothing. -/
theorem relax_mergedObject {objects : List Shape}
    (hdeclared : ∀ name,
      relax (merge (declared objects name)) = merge ((declared objects name).map relax)) :
    relax (mergedObject objects) = mergedObject (objects.map Shape.relax) := by
  have hrequired : ((propertyNames objects).filter fun name =>
      (objects.map Shape.relax).all fun object => object.required.contains name) = [] := by
    rw [List.filter_eq_nil_iff]
    intro name hname hall
    -- Some object declares the name, and it does not require it.
    obtain ⟨object, hobject, -⟩ := mem_propertyNames.mp hname
    have hcontains := List.all_eq_true.mp hall _ (List.mem_map_of_mem hobject)
    cases hcontains
  have heach : ∀ name, merge (declared (objects.map Shape.relax) name) =
      relax (merge (declared objects name)) := fun name => by
    rw [declared_map_relax, hdeclared]
  rw [mergedObject, mergedObject, propertyNames_map_relax, hrequired, relax,
    relaxProperties_eq_map, List.map_map]
  simp only [heach]
  rfl

/-- **Relaxing commutes with merging**: no decision depends on what is required. -/
theorem relax_merge (schemas : List Schema) :
    relax (merge schemas) = merge (schemas.map relax) := by
  induction schemas using parts_induction with
  | nil => rw [List.map_nil, merge, relax]
  | single schema => rw [List.map_singleton, merge, merge]
  | several first second rest hdeclared hitems =>
    rw [List.map_cons, List.map_cons, merge_of_several, merge_of_several, ← List.map_cons,
      ← List.map_cons, flatten_map_relax]
    generalize flatten (first :: second :: rest) = flat at hdeclared hitems
    -- The kinds decide what is made, and relaxing keeps them.
    have hkinds := kinds_map_relax flat
    rcases kinds_cases flat with hk | ⟨k, hk⟩ | hk
    · rw [mergeFlat_of_nil hk, mergeFlat_of_nil (hkinds.trans hk), relax]
    · have hk' := hkinds.trans hk
      by_cases hobject : k = .object
      · subst hobject
        rw [mergeFlat_of_object hk, mergeFlat_of_object hk', shapes_map_relax]
        exact relax_mergedObject hdeclared
      by_cases harray : k = .array
      · subst harray
        rw [mergeFlat_of_array hk, mergeFlat_of_array hk', itemSchemas_map_relax, relax, hitems]
      · rw [mergeFlat_of_single hk hobject harray, mergeFlat_of_single hk' hobject harray]
        cases flat <;> rfl
    · rw [mergeFlat_of_several hk, mergeFlat_of_several (hkinds ▸ hk), relax_unionOf]

/-- A sample read strictly and then relaxed is the sample read without strictness. -/
theorem relax_infer (sample : Json) : relax (infer true sample) = infer false sample := by
  induction sample using Json.children_induction with
  | step sample ih =>
    cases sample with
    | arr items =>
      rw [infer, infer, relax, relax_merge, inferAll_eq_map, inferAll_eq_map, List.map_map]
      exact congrArg (fun parts => Schema.array (some (merge parts))) (List.map_congr_left ih)
    | obj entries =>
      -- The properties are relaxed one by one; what the object requires is dropped.
      have hproperties : relaxProperties (inferProperties true entries) =
          inferProperties false entries := by
        rw [relaxProperties_eq_map, inferProperties_eq_map, inferProperties_eq_map, List.map_map]
        refine List.map_congr_left fun entry hentry => ?_
        exact congrArg (Prod.mk entry.1) (ih entry.2 (List.mem_map_of_mem hentry))
      rw [infer, infer, relax, hproperties]
      rfl
    | _ => rfl

theorem relax_merge_infer (samples : List Json) :
    relax (merge (samples.map (infer true))) = merge (samples.map (infer false)) := by
  rw [relax_merge, List.map_map]
  congr 2
  funext sample
  exact relax_infer sample

/-! ## Objects whose keys are all required -/

/-- The keys of several objects in the order of their first appearance. -/
def keysSeen (objects : List (Entries Json)) : List String :=
  (objects.flatMap Entries.keys).eraseDups

/-- The values that several objects have under a key. -/
def valuesAt (objects : List (Entries Json)) (key : String) : List Json :=
  objects.filterMap fun entries => entries.find? key

/-- What is known of objects whose keys are all required. -/
def strictShapes (objects : List (Entries Json)) : List Shape :=
  objects.map fun entries => ⟨inferProperties true entries, Entries.keys entries⟩

theorem shapes_infer_objects (objects : List (Entries Json)) :
    shapes ((objects.map .obj).map (infer true)) = strictShapes objects := by
  induction objects with
  | nil => rfl
  | cons entries rest ih =>
    rw [List.map_cons, List.map_cons, strictShapes, List.map_cons, ← strictShapes, ← ih,
      ← keys_inferProperties true entries]
    rfl

theorem propertyNames_strictShapes (objects : List (Entries Json)) :
    propertyNames (strictShapes objects) = keysSeen objects := by
  rw [strictShapes, propertyNames, keysSeen, List.flatMap_map]
  congr 2
  funext entries
  exact keys_inferProperties true entries

theorem declared_strictShapes (objects : List (Entries Json)) (key : String) :
    declared (strictShapes objects) key = (valuesAt objects key).map (infer true) := by
  rw [strictShapes, declared, valuesAt, List.filterMap_map, List.map_filterMap]
  congr 1
  funext entries
  exact find?_inferProperties true entries key

theorem mem_keysSeen {objects : List (Entries Json)} {key : String} :
    key ∈ keysSeen objects ↔ ∃ entries ∈ objects, key ∈ entries.keys := by
  rw [keysSeen, List.mem_eraseDups, List.mem_flatMap]

/-- **Strict objects** are merged key by key, and a key is required if all of them have it. -/
theorem merge_infer_objects {objects : List (Entries Json)} (hne : objects ≠ [])
    (hdistinct : ∀ s ∈ objects.map Json.obj, s.Distinct) :
    ∃ required,
      merge ((objects.map .obj).map (infer true)) =
        .object
          ((keysSeen objects).map fun key =>
            (key, merge ((valuesAt objects key).map (infer true))))
          required (keysSeen objects).isEmpty ∧
      ∀ key, key ∈ required ↔ ∀ entries ∈ objects, key ∈ entries.keys := by
  have hsettled : ∀ s ∈ (objects.map .obj).map (infer true), s.Settled := by
    intro s hs
    obtain ⟨sample, hsample, rfl⟩ := List.mem_map.mp hs
    exact settled_infer true (hdistinct sample hsample)
  have hobject : ∀ s ∈ (objects.map .obj).map (infer true), s.kind = .object := by
    intro s hs
    obtain ⟨sample, hsample, rfl⟩ := List.mem_map.mp hs
    obtain ⟨entries, -, rfl⟩ := List.mem_map.mp hsample
    rfl
  rw [merge_of_objects (by simpa using hne) hsettled hobject, shapes_infer_objects, mergedObject,
    propertyNames_strictShapes]
  simp only [declared_strictShapes]
  refine ⟨_, rfl, fun key => ?_⟩
  have hall : ((strictShapes objects).all fun object => object.required.contains key) = true ↔
      ∀ entries ∈ objects, key ∈ entries.keys := by
    rw [strictShapes, List.all_map, List.all_eq_true]
    exact forall₂_congr fun entries _ => List.contains_iff_mem
  rw [List.mem_filter, hall, and_iff_right_iff_imp]
  -- A key that all of them have is a key of the first one.
  intro hkey
  obtain ⟨entries, hentries⟩ := List.exists_mem_of_ne_nil _ hne
  exact mem_keysSeen.mpr ⟨entries, hentries, hkey entries hentries⟩

/-! ## The two settings -/

/-- **Strictness** decides about what is required and about nothing else: the schema that is not
strict requires nothing and is otherwise the strict one.  Of objects the strict schema requires the
keys that all of them have. -/
theorem strictness_of_samples (samples : List Json) :
    relax (merge (samples.map (infer true))) = merge (samples.map (infer false)) ∧
    Everywhere RequiresNothing (merge (samples.map (infer false))) ∧
    ∀ objects : List (Entries Json), samples = objects.map .obj → objects ≠ [] →
      (∀ s ∈ samples, s.Distinct) →
      ∃ required,
        merge (samples.map (infer true)) =
          .object
            ((keysSeen objects).map fun key =>
              (key, merge ((valuesAt objects key).map (infer true))))
            required (keysSeen objects).isEmpty ∧
        ∀ key, key ∈ required ↔ ∀ entries ∈ objects, key ∈ entries.keys := by
  refine ⟨relax_merge_infer samples, ?_, ?_⟩
  · rw [← relax_merge_infer]
    exact everywhere_requiresNothing_relax _
  · rintro objects rfl hne hdistinct
    exact merge_infer_objects hne hdistinct

/-- Two objects, one of which lacks a key of the other. -/
def partialObjects : List (Entries Json) :=
  [[("b", .num (.integer 1)), ("a", .null)], [("a", .str "x"), ("c", .arr [])]]

theorem strictness_of_partialObjects :
    (∀ s ∈ partialObjects.map Json.obj, s.Distinct) ∧
    keysSeen partialObjects = ["b", "a", "c"] ∧
    relax (merge ((partialObjects.map .obj).map (infer true))) =
      merge ((partialObjects.map .obj).map (infer false)) ∧
    ∃ required,
      merge ((partialObjects.map .obj).map (infer true)) =
        .object
          ((keysSeen partialObjects).map fun key =>
            (key, merge ((valuesAt partialObjects key).map (infer true))))
          required (keysSeen partialObjects).isEmpty ∧
      ∀ key, key ∈ required ↔ ∀ entries ∈ partialObjects, key ∈ entries.keys := by
  have hfirst : (Json.obj [("b", .num (.integer 1)), ("a", .null)]).Distinct :=
    Json.distinct_collapse (.obj [("b", .num (.integer 1)), ("a", .null)])
  have hsecond : (Json.obj [("a", .str "x"), ("c", .arr [])]).Distinct :=
    Json.distinct_collapse (.obj [("a", .str "x"), ("c", .arr [])])
  have hdistinct : ∀ s ∈ partialObjects.map Json.obj, s.Distinct :=
    List.forall_mem_cons.mpr ⟨hfirst, List.forall_mem_singleton.mpr hsecond⟩
  obtain ⟨hrelax, -, hobjects⟩ := strictness_of_samples (partialObjects.map .obj)
  exact ⟨hdistinct, by decide, hrelax,
    hobjects partialObjects rfl (List.cons_ne_nil _ _) hdistinct⟩

end ApiToolkit.Schema
