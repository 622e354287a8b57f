import ApiToolkit.Proofs.Schema.Settled
import ApiToolkit.Schema.Declaration
/-!
# Samples that come again

Merging keeps all objects and arrays of a union, so a sample that comes again may stand in the merged
schema again.  A type is written without repetitions, and there it does not show.

## What is inside

- `Schema.WrittenAlike`: equality up to repeated alternatives.
- `Schema.WrittenAlike.typeText_eq`, `Schema.WrittenAlike.declaration_eq`: such schemas are written
  alike.
- `Schema.writtenAlike_merge_append`: settled schemas that are merged again.
- `Schema.declaration_merge_repeated`: samples that come again.
-/

namespace ApiToolkit.Schema

/-! ## Equality up to repeated alternatives -/

/-- Two schemas differ at most in the repeated alternatives of their unions. -/
inductive WrittenAlike : Schema → Schema → Prop where
  | refl (schema : Schema) : WrittenAlike schema schema
  | object {names : List String} {f g : String → Schema} {required : List String} {isOpen : Bool}
      (each : ∀ name ∈ names, WrittenAlike (f name) (g name)) :
      WrittenAlike (.object (names.map fun name => (name, f name)) required isOpen)
        (.object (names.map fun name => (name, g name)) required isOpen)
  | array {items others : Schema} (item : WrittenAlike items others) :
      WrittenAlike (.array (some items)) (.array (some others))
  | union {alternatives others : List Schema} (once : alternatives.eraseDups = others.eraseDups) :
      WrittenAlike (.union alternatives) (.union others)

namespace WrittenAlike

variable {first second : Schema}

theorem isUnion_eq (h : WrittenAlike first second) : isUnion first = isUnion second := by
  cases h <;> rfl

theorem memberTexts_eq (depth : Nat) (required : List String) {names : List String}
    {f g : String → Schema}
    (h : ∀ name ∈ names, typeText (depth + 1) (f name) = typeText (depth + 1) (g name)) :
    memberTexts depth required (names.map fun name => (name, f name)) =
      memberTexts depth required (names.map fun name => (name, g name)) := by
  induction names with
  | nil => rfl
  | cons name rest ih =>
    obtain ⟨hname, hrest⟩ := List.forall_mem_cons.mp h
    rw [List.map_cons, List.map_cons, memberTexts, memberTexts, hname, ih hrest]

/-- Such schemas have the same type at every depth. -/
theorem typeText_eq (h : WrittenAlike first second) (depth : Nat) :
    typeText depth first = typeText depth second := by
  induction h generalizing depth with
  | refl schema => rfl
  | object each ih =>
    rw [typeText_object, typeText_object,
      memberTexts_eq depth _ fun name hname => ih name hname (depth + 1)]
  | array item ih => rw [typeText_array, typeText_array, item.isUnion_eq, ih depth]
  | @union alternatives others once =>
    -- Equal alternatives have equal texts, so the texts first appear in the same order.
    rw [typeText_union, typeText_union, typeTexts_eq_map, typeTexts_eq_map,
      ← eraseDups_map_eraseDups, once, eraseDups_map_eraseDups]

/-- Such schemas have the same declaration: they are of one form, which decides whether there is an
interface. -/
theorem declaration_eq (h : WrittenAlike first second) (options : DeclarationOptions) :
    declaration options first = declaration options second := by
  have hbody : ∀ name, declarationBody name first = declarationBody name second := by
    intro name
    have htext := h.typeText_eq 0
    cases h with
    | refl schema => exact Eq.refl _
    | object each =>
      rw [declarationBody, declarationBody]
      unfold interfaceText
      rw [htext]
    | union once => rw [declarationBody, declarationBody, htext] <;> exact nofun
    | array item =>
      have hitems := item.typeText_eq 0
      cases item with
      | refl schema => exact Eq.refl _
      | object each =>
        rw [declarationBody, declarationBody]
        unfold interfaceText
        rw [hitems]
      | union once => rw [declarationBody, declarationBody, htext] <;> exact nofun
      | array item => rw [declarationBody, declarationBody, htext] <;> exact nofun
  rw [declaration, declaration, hbody]

end WrittenAlike

/-! ## Unions and objects again -/

section Again

variable {flat more : List Schema}

theorem kinds_append_of_subset (h : more ⊆ flat) : kinds (flat ++ more) = kinds flat := by
  rw [kinds, kinds, List.map_append]
  exact eraseDups_append_of_subset (List.map_subset _ h)

/-- Of schemas that come again, only objects and arrays are listed again. -/
theorem exists_known_again (h : more ⊆ flat) : ∃ again, again ⊆ distinctKnown [] flat ∧
    (∀ s ∈ again, s.kind = .object ∨ s.kind = .array) ∧
    distinctKnown [] (flat ++ more) = distinctKnown [] flat ++ again := by
  obtain ⟨taken, -, hplaces, happend⟩ := exists_distinctKnown_append [] flat
  have hkind : ∀ s ∈ distinctKnown taken more, s.kind = .object ∨ s.kind = .array := by
    intro s hs
    have hknown := kind_ne_unknown_of_mem_distinctKnown hs
    cases s with
    | primitive type =>
      -- Its place was taken when it stood in the list before.
      have hbefore := h ((distinctKnown_sublist taken more).subset hs)
      exact absurd (hplaces type hbefore) (slot_not_mem_of_mem_distinctKnown hs)
    | object properties required isOpen => exact .inl rfl
    | array items => exact .inr rfl
    | any => exact absurd rfl hknown
    | union members => exact absurd rfl hknown
  refine ⟨distinctKnown taken more, fun s hs => ?_, hkind, happend more⟩
  have hbefore := h ((distinctKnown_sublist taken more).subset hs)
  exact mem_distinctKnown_of_structured (hkind s hs) hbefore []

/-- A schema that is known by itself of schemas of several kinds does not come again. -/
theorem known_again_eq_nil (several : 2 ≤ (kinds flat).length)
    (known : ∀ s ∈ flat, s.kind ≠ .unknown) {only : Schema}
    (one : distinctKnown [] flat = [only]) {again : List Schema} (h : again ⊆ [only])
    (hkind : ∀ s ∈ again, s.kind = .object ∨ s.kind = .array) : again = [] := by
  rw [List.eq_nil_iff_forall_not_mem]
  intro s hs
  -- An object or array would stand beside a schema of another kind.
  obtain ⟨t, ht, hne⟩ := exists_known_kind_ne several known (hkind s hs)
  rw [one, List.mem_singleton] at ht
  exact hne (congrArg kind (ht.trans (List.mem_singleton.mp (h hs)).symm))

/-- **Unions**: schemas of several kinds that come again are written once. -/
theorem writtenAlike_unionOf_append (h : more ⊆ flat) (several : 2 ≤ (kinds flat).length) :
    WrittenAlike (unionOf (flat ++ more)) (unionOf flat) := by
  obtain ⟨again, hagain, hkind, happend⟩ := exists_known_again h
  have hany : (flat ++ more).any (fun s => s.kind == .unknown) =
      flat.any fun s => s.kind == .unknown := by
    rw [Bool.eq_iff_iff, List.any_eq_true, List.any_eq_true]
    constructor
    · rintro ⟨s, hs, hunknown⟩
      exact ⟨s, (List.mem_append.mp hs).elim id (@h s), hunknown⟩
    · rintro ⟨s, hs, hunknown⟩
      exact ⟨s, List.mem_append_left _ hs, hunknown⟩
  rw [unionOf_eq, unionOf_eq, hany, happend]
  split
  next => exact .union (eraseDups_append_append_of_subset hagain _)
  next hknown =>
    have hknown : ∀ s ∈ flat, s.kind ≠ .unknown := by simpa using hknown
    match hd : distinctKnown [] flat with
    | [] =>
      rw [hd] at hagain
      rw [List.subset_nil.mp hagain]
      exact .refl _
    | [only] =>
      rw [hd] at hagain
      rw [known_again_eq_nil several hknown hd hagain hkind]
      exact .refl _
    | first :: second :: rest =>
      rw [hd] at hagain
      exact .union (eraseDups_append_of_subset hagain)

/-- **Objects**: an object that comes again brings neither names nor requirements. -/
theorem writtenAlike_mergedObject_append {objects again : List Shape} (h : again ⊆ objects)
    (hdeclared : ∀ name, WrittenAlike (merge (declared objects name ++ declared again name))
      (merge (declared objects name))) :
    WrittenAlike (mergedObject (objects ++ again)) (mergedObject objects) := by
  have hnames : propertyNames (objects ++ again) = propertyNames objects := by
    rw [propertyNames, propertyNames, List.flatMap_append]
    apply eraseDups_append_of_subset
    intro name hname
    obtain ⟨object, hobject, hkey⟩ := List.mem_flatMap.mp hname
    exact List.mem_flatMap.mpr ⟨object, h hobject, hkey⟩
  have hrequired : ∀ name : String,
      ((objects ++ again).all fun object => object.required.contains name) =
        objects.all fun object => object.required.contains name := by
    intro name
    rw [Bool.eq_iff_iff, List.all_eq_true, List.all_eq_true]
    constructor
    · intro hall object hobject
      exact hall object (List.mem_append_left _ hobject)
    · intro hall object hobject
      exact hall object ((List.mem_append.mp hobject).elim id (@h object))
  rw [mergedObject, mergedObject, hnames]
  simp only [hrequired]
  refine .object fun name hname => ?_
  rw [declared, List.filterMap_append]
  exact hdeclared name

end Again

/-! ## Merging again -/

/-- Flattened schemas that come again are written alike, if that is so for the parts of objects and
arrays. -/
theorem writtenAlike_mergeFlat_append {flat more : List Schema} (h : more ⊆ flat)
    (hdeclared : ∀ name, WrittenAlike
      (merge (declared (shapes flat) name ++ declared (shapes more) name))
      (merge (declared (shapes flat) name)))
    (hitems : WrittenAlike (merge (itemSchemas flat ++ itemSchemas more))
      (merge (itemSchemas flat))) :
    WrittenAlike (mergeFlat (flat ++ more)) (mergeFlat flat) := by
  have hkinds := kinds_append_of_subset h
  rcases kinds_cases flat with hk | ⟨k, hk⟩ | hk
  · rw [mergeFlat_of_nil hk, mergeFlat_of_nil (hkinds.trans hk)]
    exact .refl _
  · have hk' := hkinds.trans hk
    by_cases hobject : k = .object
    · subst hobject
      have hshapes : shapes more ⊆ shapes flat := by
        rw [shapes_eq_filterMap, shapes_eq_filterMap]
        exact List.filterMap_subset _ h
      have happend : shapes (flat ++ more) = shapes flat ++ shapes more := by
        rw [shapes_eq_filterMap, List.filterMap_append, ← shapes_eq_filterMap,
          ← shapes_eq_filterMap]
      rw [mergeFlat_of_object hk, mergeFlat_of_object hk', happend]
      exact writtenAlike_mergedObject_append hshapes hdeclared
    by_cases harray : k = .array
    · subst harray
      have happend : itemSchemas (flat ++ more) = itemSchemas flat ++ itemSchemas more := by
        rw [itemSchemas_eq_filterMap, List.filterMap_append, ← itemSchemas_eq_filterMap,
          ← itemSchemas_eq_filterMap]
      rw [mergeFlat_of_array hk, mergeFlat_of_array hk', happend]
      exact .array hitems
    · rw [mergeFlat_of_single hk hobject harray, mergeFlat_of_single hk' hobject harray]
      -- The first schema is one of those that stood there before.
      cases flat with
      | nil => cases hk
      | cons first rest => exact .refl _
  · rw [mergeFlat_of_several hk, mergeFlat_of_several (hkinds ▸ hk)]
    exact writtenAlike_unionOf_append h hk

/-- **Merging again**: settled schemas that are merged again change at most repeated alternatives. -/
theorem writtenAlike_merge_append {schemas more : List Schema} (h : ∀ s ∈ schemas, s.Settled)
    (hmore : more ⊆ schemas) : WrittenAlike (merge (schemas ++ more)) (merge schemas) := by
  induction schemas using flat_induction generalizing more with
  | nil =>
    rw [List.subset_nil.mp hmore]
    exact .refl _
  | step schemas hne hdeclared hitems =>
    have hall : ∀ s ∈ schemas ++ more, s.Settled := fun s hs =>
      h s ((List.mem_append.mp hs).elim id (@hmore s))
    have hflat : ∀ s ∈ flatten schemas, s.Settled := fun s hs => everywhere_of_mem_flatten h hs
    have hagain : flatten more ⊆ flatten schemas := by
      intro s hs
      obtain ⟨schema, hschema, hs⟩ := mem_flatten.mp hs
      exact mem_flatten.mpr ⟨schema, hmore hschema, hs⟩
    have happend : flatten (schemas ++ more) = flatten schemas ++ flatten more := by
      rw [flatten_eq_flatMap, List.flatMap_append, ← flatten_eq_flatMap, ← flatten_eq_flatMap]
    rw [merge_of_settled (List.append_ne_nil_of_left_ne_nil hne _) hall, merge_of_settled hne h,
      happend]
    apply writtenAlike_mergeFlat_append hagain
    · intro name
      apply hdeclared name (everywhere_declared hflat name)
      intro child hchild
      obtain ⟨object, hobject, hfind⟩ := mem_declared.mp hchild
      obtain ⟨isOpen, hs⟩ := mem_shapes.mp hobject
      exact mem_declared.mpr ⟨object, mem_shapes.mpr ⟨isOpen, hagain hs⟩, hfind⟩
    · apply hitems (everywhere_itemSchemas hflat)
      intro items hs
      exact mem_itemSchemas.mpr (hagain (mem_itemSchemas.mp hs))

/-- **Repeated samples**: a sample that comes again changes nothing in the declaration of the merged
schemas, whether or not properties are taken as required. -/
theorem declaration_merge_repeated (strict : Bool) (options : DeclarationOptions)
    (samples : List Json) (sample : Json) (hdistinct : ∀ s ∈ samples, s.Distinct)
    (h : sample ∈ samples) :
    declaration options (merge ((samples ++ [sample]).map (infer strict))) =
      declaration options (merge (samples.map (infer strict))) := by
  have hsettled : ∀ s ∈ samples.map (infer strict), s.Settled := by
    intro s hs
    obtain ⟨other, hother, rfl⟩ := List.mem_map.mp hs
    exact settled_infer strict (hdistinct other hother)
  have hagain : [infer strict sample] ⊆ samples.map (infer strict) :=
    List.cons_subset.mpr ⟨List.mem_map_of_mem h, List.nil_subset _⟩
  rw [List.map_append, List.map_singleton]
  exact (writtenAlike_merge_append hsettled hagain).declaration_eq options

/-- An array whose elements have two kinds.  Its object stands twice in the merged schema when the
array comes again. -/
def mixedArray : Json := .arr [.num (.integer 1), .obj [("k", .null)]]

theorem declaration_mixedArray :
    (∀ s ∈ [.obj [], mixedArray], s.Distinct) ∧ mixedArray ∈ [.obj [], mixedArray] ∧
    declaration .standard (merge (([.obj [], mixedArray] ++ [mixedArray]).map (infer true))) =
      declaration .standard (merge ([.obj [], mixedArray].map (infer true))) := by
  have hempty : (Json.obj []).Distinct := Json.distinct_collapse (.obj [])
  have hmixed : mixedArray.Distinct := Json.distinct_collapse mixedArray
  have hdistinct : ∀ s ∈ [.obj [], mixedArray], s.Distinct :=
    List.forall_mem_cons.mpr ⟨hempty, List.forall_mem_singleton.mpr hmixed⟩
  have hmem : mixedArray ∈ [.obj [], mixedArray] := by simp
  exact ⟨hdistinct, hmem,
    declaration_merge_repeated true .standard [.obj [], mixedArray] mixedArray hdistinct hmem⟩

end ApiToolkit.Schema
