import ApiToolkit.Proofs.Entries
import ApiToolkit.Schema.Merge
import Mathlib.Tactic.Cases
/-!
# What merging gives

`Schema.merge` decides by the kinds of the flattened schemas.  The theorems about it rest on one
inversion, `merged_flatten`, and on what is known about each of its cases.

## What is inside

- `Schema.children_induction`, `Schema.Everywhere`: induction over the nodes of a schema, and a
  property of all of them.
- `Schema.mem_flatten`: flattening leaves schemas that are no unions.
- `Schema.Merged`, `Schema.merged_flatten`: the ways in which schemas are merged.
- `Schema.mergeFlat`: the merging of flattened schemas as a function of their kinds.
- `Schema.flat_induction`, `Schema.parts_induction`: induction over what merging recurs on.
- `Schema.Joined`, `Schema.joined_unionOf`: the ways in which schemas of several kinds become one.
- `Schema.everywhere_merge`: what holds at every node of the schemas holds at every node of the
  merged one.
-/

namespace ApiToolkit.Schema

/-! ## Nodes -/

/-- The schemas right below a schema. -/
def children : Schema → List Schema
  | .any | .primitive _ | .array none => []
  | .object properties _ _ => properties.map (·.2)
  | .array (some items) => [items]
  | .union alternatives => alternatives

theorem sizeOf_lt_of_mem_children {schema child : Schema} (h : child ∈ schema.children) :
    sizeOf child < sizeOf schema := by
  cases schema with
  | any => cases h
  | primitive type => cases h
  | object properties required isOpen =>
    obtain ⟨entry, hentry, rfl⟩ := List.mem_map.mp h
    have hlt := List.sizeOf_lt_of_mem hentry
    obtain ⟨name, inner⟩ := entry
    simp only [object.sizeOf_spec, Prod.mk.sizeOf_spec] at hlt ⊢
    omega
  | array items =>
    cases items with
    | none => cases h
    | some items =>
      rw [children, List.mem_singleton] at h
      rw [h, array.sizeOf_spec, Option.some.sizeOf_spec]
      omega
  | union members =>
    have hlt : sizeOf child < sizeOf members := List.sizeOf_lt_of_mem h
    rw [union.sizeOf_spec]
    omega

/-- What holds of a schema whenever it holds of the schemas right below holds of every schema. -/
theorem children_induction {motive : Schema → Prop}
    (step : ∀ schema, (∀ child ∈ schema.children, motive child) → motive schema)
    (schema : Schema) : motive schema :=
  step schema fun child h =>
    have := sizeOf_lt_of_mem_children h
    children_induction step child
termination_by sizeOf schema

/-- A property of every node of a schema, at every depth. -/
inductive Everywhere (P : Schema → Prop) : Schema → Prop where
  /-- A node has the property, and so has everything below it. -/
  | node {schema : Schema} (here : P schema)
      (below : ∀ child ∈ schema.children, Everywhere P child) : Everywhere P schema

namespace Everywhere

variable {P Q : Schema → Prop} {schema : Schema}

theorem here (h : Everywhere P schema) : P schema := by
  cases h with
  | node here _ => exact here

theorem child (h : Everywhere P schema) : ∀ child ∈ schema.children, Everywhere P child := by
  cases h with
  | node _ below => exact below

end Everywhere

/-! ## Flattening -/

theorem flatten_eq_flatMap (schemas : List Schema) :
    flatten schemas = schemas.flatMap alternatives := by
  induction schemas with
  | nil => rfl
  | cons schema rest ih => rw [flatten, ih, List.flatMap_cons]

theorem mem_flatten {schemas : List Schema} {s : Schema} :
    s ∈ flatten schemas ↔ ∃ schema ∈ schemas, s ∈ schema.alternatives := by
  rw [flatten_eq_flatMap, List.mem_flatMap]

theorem alternatives_of_ne_union {schema : Schema} (h : ∀ members, schema ≠ .union members) :
    schema.alternatives = [schema] := by
  cases schema with
  | union members => exact absurd rfl (h members)
  | any => rfl
  | primitive type => rfl
  | object properties required isOpen => rfl
  | array items => rfl

mutual

theorem ne_union_of_mem_alternatives (schema : Schema) {s : Schema} (hs : s ∈ schema.alternatives)
    (members : List Schema) : s ≠ .union members := by
  cases schema with
  | union inner => exact ne_union_of_mem_flatten inner hs members
  | any => simp_all [alternatives]
  | primitive type => simp_all [alternatives]
  | object properties required isOpen => simp_all [alternatives]
  | array items => simp_all [alternatives]

/-- Flattened schemas are no unions. -/
theorem ne_union_of_mem_flatten (schemas : List Schema) {s : Schema} (hs : s ∈ flatten schemas)
    (members : List Schema) : s ≠ .union members := by
  cases schemas with
  | nil => simp [flatten] at hs
  | cons schema rest =>
    rw [flatten, List.mem_append] at hs
    rcases hs with hs | hs
    · exact ne_union_of_mem_alternatives schema hs members
    · exact ne_union_of_mem_flatten rest hs members

end

theorem everywhere_of_mem_alternatives {P : Schema → Prop} {schema s : Schema}
    (h : Everywhere P schema) (hs : s ∈ schema.alternatives) : Everywhere P s := by
  induction h with
  | @node schema here below ih =>
    by_cases hunion : ∃ members, schema = .union members
    · obtain ⟨members, rfl⟩ := hunion
      obtain ⟨member, hmember, hs⟩ := mem_flatten.mp hs
      exact ih member hmember hs
    · rw [alternatives_of_ne_union (not_exists.mp hunion), List.mem_singleton] at hs
      rw [hs]
      exact .node here below

theorem everywhere_of_mem_flatten {P : Schema → Prop} {schemas : List Schema} {s : Schema}
    (h : ∀ schema ∈ schemas, Everywhere P schema) (hs : s ∈ flatten schemas) : Everywhere P s := by
  obtain ⟨schema, hschema, hs⟩ := mem_flatten.mp hs
  exact everywhere_of_mem_alternatives (h schema hschema) hs

/-! ## The ways of merging -/

/-- The object that several objects are merged into. -/
def mergedObject (objects : List Shape) : Schema :=
  .object ((propertyNames objects).map fun name => (name, merge (declared objects name)))
    ((propertyNames objects).filter fun name =>
      objects.all fun object => object.required.contains name)
    (propertyNames objects).isEmpty

/-- The ways in which flattened schemas are merged into one. -/
inductive Merged (flat : List Schema) : Schema → Prop where
  /-- Nothing is known about any of them. -/
  | unknown (all : ∀ s ∈ flat, s = .any) : Merged flat .any
  /-- All are the same primitive. -/
  | primitive (type : Primitive) (some : .primitive type ∈ flat)
      (all : ∀ s ∈ flat, s = .primitive type) : Merged flat (.primitive type)
  /-- All are objects. -/
  | object (all : ∀ s ∈ flat, s.kind = .object) : Merged flat (mergedObject (shapes flat))
  /-- All are arrays. -/
  | array (all : ∀ s ∈ flat, s.kind = .array) :
      Merged flat (.array (some (merge (itemSchemas flat))))
  /-- They are of several kinds. -/
  | union (several : 2 ≤ (kinds flat).length) : Merged flat (unionOf flat)

theorem mem_kinds {schemas : List Schema} {k : Kind} :
    k ∈ kinds schemas ↔ ∃ s ∈ schemas, s.kind = k := by
  rw [kinds, List.mem_eraseDups, List.mem_map]

/-- Where one kind is listed all schemas have it. -/
theorem kind_eq_of_kinds_eq_singleton {schemas : List Schema} {k : Kind}
    (h : kinds schemas = [k]) : ∀ s ∈ schemas, s.kind = k := by
  intro s hs
  have hmem : s.kind ∈ kinds schemas := mem_kinds.mpr ⟨s, hs, rfl⟩
  rwa [h, List.mem_singleton] at hmem

/-- A kind without parts leaves no choice of the schema, unless it is a union. -/
theorem eq_of_kind_eq {s t : Schema} (hs : ∀ members, s ≠ .union members)
    (ht : ∀ members, t ≠ .union members) (h : s.kind = t.kind) (hobject : s.kind ≠ .object)
    (harray : s.kind ≠ .array) : s = t := by
  cases s with
  | object => exact absurd rfl hobject
  | array => exact absurd rfl harray
  | union members => exact absurd rfl (hs members)
  | primitive type =>
    cases t with
    | primitive other => exact congrArg Schema.primitive (Kind.primitive.inj h)
    | _ => cases h
  | any =>
    cases t with
    | any => rfl
    | union members => exact absurd rfl (ht members)
    | _ => cases h

section OneKind

variable {flat : List Schema} {k : Kind} (hk : kinds flat = [k])

include hk

theorem headD_mem_of_kinds : flat.headD .any ∈ flat := by
  cases flat with
  | nil => cases hk
  | cons first rest => exact List.mem_cons_self ..

/-- Schemas of one kind that has no parts are all the same. -/
theorem eq_headD_of_mem (hflat : ∀ s ∈ flat, ∀ members, s ≠ .union members)
    (hobject : k ≠ .object) (harray : k ≠ .array) {s : Schema} (hs : s ∈ flat) :
    s = flat.headD .any := by
  have hhead := headD_mem_of_kinds hk
  have hkind := kind_eq_of_kinds_eq_singleton hk
  apply eq_of_kind_eq (hflat s hs) (hflat _ hhead)
  · rw [hkind s hs, hkind _ hhead]
  · rwa [hkind s hs]
  · rwa [hkind s hs]

end OneKind

theorem merged_head {schemas : List Schema} {k : Kind} (hk : kinds (flatten schemas) = [k])
    (hobject : k ≠ .object) (harray : k ≠ .array) :
    Merged (flatten schemas) ((flatten schemas).headD .any) := by
  have hflat : ∀ s ∈ flatten schemas, ∀ members, s ≠ .union members := fun _ hs =>
    ne_union_of_mem_flatten schemas hs
  have hhead := headD_mem_of_kinds hk
  have hall : ∀ s ∈ flatten schemas, s = (flatten schemas).headD .any := fun _ hs =>
    eq_headD_of_mem hk hflat hobject harray hs
  have hkind := kind_eq_of_kinds_eq_singleton hk _ hhead
  generalize (flatten schemas).headD .any = head at hhead hall hkind ⊢
  cases head with
  | any => exact .unknown hall
  | primitive type => exact .primitive type hhead hall
  | object => exact absurd hkind.symm hobject
  | array => exact absurd hkind.symm harray
  | union members => exact absurd rfl (hflat _ hhead members)

/-- Two or more schemas are merged by the kinds of the flattened ones. -/
theorem merged_flatten (first second : Schema) (rest : List Schema) :
    Merged (flatten (first :: second :: rest)) (merge (first :: second :: rest)) := by
  rw [merge]
  split
  next hk =>
    refine .unknown fun s hs => ?_
    have hmem : s.kind ∈ kinds (flatten (first :: second :: rest)) := mem_kinds.mpr ⟨s, hs, rfl⟩
    rw [hk] at hmem
    cases hmem
  next hk => exact .object (kind_eq_of_kinds_eq_singleton hk)
  next hk => exact .array (kind_eq_of_kinds_eq_singleton hk)
  next k hobject harray hk =>
    exact merged_head hk (fun h => hobject (h ▸ rfl)) (fun h => harray (h ▸ rfl))
  next hnil hobject harray hone =>
    -- Neither none nor a single kind is left, so there are two at least.
    refine .union ?_
    rcases hk : kinds (flatten (first :: second :: rest)) with _ | ⟨k, _ | ⟨other, others⟩⟩
    · exact absurd hk hnil
    · exact absurd hk (hone k)
    · simp

/-! ## Merging by kinds -/

/-- What flattened schemas are merged into.  Of a single schema `merge` does not look at the kind;
this function does. -/
def mergeFlat (flat : List Schema) : Schema :=
  match kinds flat with
  | [] => .any
  | [.object] => mergedObject (shapes flat)
  | [.array] => .array (some (merge (itemSchemas flat)))
  | [_] => flat.headD .any
  | _ => unionOf flat

theorem merge_of_several (first second : Schema) (rest : List Schema) :
    merge (first :: second :: rest) = mergeFlat (flatten (first :: second :: rest)) := by
  rw [merge]
  rfl

theorem kinds_cases (flat : List Schema) :
    kinds flat = [] ∨ (∃ k, kinds flat = [k]) ∨ 2 ≤ (kinds flat).length := by
  match kinds flat with
  | [] => exact .inl rfl
  | [k] => exact .inr (.inl ⟨k, rfl⟩)
  | _ :: _ :: _ => exact .inr (.inr (by simp))

section Kinds

variable {flat : List Schema}

theorem mergeFlat_of_nil (h : kinds flat = []) : mergeFlat flat = .any := by
  simp only [mergeFlat, h]

theorem mergeFlat_of_object (h : kinds flat = [.object]) :
    mergeFlat flat = mergedObject (shapes flat) := by
  simp only [mergeFlat, h]

theorem mergeFlat_of_array (h : kinds flat = [.array]) :
    mergeFlat flat = .array (some (merge (itemSchemas flat))) := by
  simp only [mergeFlat, h]

/-- A kind without parts leaves the first schema. -/
theorem mergeFlat_of_single {k : Kind} (h : kinds flat = [k]) (hobject : k ≠ .object)
    (harray : k ≠ .array) : mergeFlat flat = flat.headD .any := by
  cases k with
  | object => exact absurd rfl hobject
  | array => exact absurd rfl harray
  | primitive type => simp only [mergeFlat, h]
  | unknown => simp only [mergeFlat, h]

theorem mergeFlat_of_several (h : 2 ≤ (kinds flat).length) : mergeFlat flat = unionOf flat := by
  match hk : kinds flat with
  | [] => simp [hk] at h
  | [_] => simp [hk] at h
  | _ :: _ :: _ => simp only [mergeFlat, hk]

end Kinds

/-! ## Parts of objects and arrays -/

theorem mem_shapes {schemas : List Schema} {object : Shape} :
    object ∈ shapes schemas ↔
      ∃ isOpen, Schema.object object.properties object.required isOpen ∈ schemas := by
  induction schemas with
  | nil => simp [shapes]
  | cons schema rest ih =>
    cases schema with
    | object properties required isOpen =>
      obtain ⟨declaredHere, requiredHere⟩ := object
      simp [shapes, ih, exists_or]
    | any => simp [shapes, ih]
    | primitive type => simp [shapes, ih]
    | array items => simp [shapes, ih]
    | union members => simp [shapes, ih]

theorem mem_itemSchemas {schemas : List Schema} {items : Schema} :
    items ∈ itemSchemas schemas ↔ .array (some items) ∈ schemas := by
  induction schemas with
  | nil => simp [itemSchemas]
  | cons schema rest ih =>
    cases schema with
    | array known => cases known <;> simp [itemSchemas, ih]
    | any => simp [itemSchemas, ih]
    | primitive type => simp [itemSchemas, ih]
    | object properties required isOpen => simp [itemSchemas, ih]
    | union members => simp [itemSchemas, ih]

/-- The properties and required names of an object schema. -/
def shape? : Schema → Option Shape
  | .object properties required _ => some ⟨properties, required⟩
  | _ => none

/-- The item schema of an array. -/
def item? : Schema → Option Schema
  | .array items => items
  | _ => none

theorem shapes_eq_filterMap (schemas : List Schema) : shapes schemas = schemas.filterMap shape? := by
  induction schemas with
  | nil => rfl
  | cons schema rest ih => cases schema <;> simp [shapes, shape?, List.filterMap_cons, ih]

theorem itemSchemas_eq_filterMap (schemas : List Schema) :
    itemSchemas schemas = schemas.filterMap item? := by
  induction schemas with
  | nil => rfl
  | cons schema rest ih =>
    cases schema with
    | array items => cases items <;> simp [itemSchemas, item?, List.filterMap_cons, ih]
    | _ => simp [itemSchemas, item?, List.filterMap_cons, ih]

theorem mem_propertyNames {objects : List Shape} {name : String} :
    name ∈ propertyNames objects ↔ ∃ object ∈ objects, name ∈ object.properties.keys := by
  rw [propertyNames, List.mem_eraseDups, List.mem_flatMap]

theorem mem_declared {objects : List Shape} {name : String} {child : Schema} :
    child ∈ declared objects name ↔ ∃ object ∈ objects, object.properties.find? name = some child :=
  List.mem_filterMap

theorem everywhere_declared {P : Schema → Prop} {schemas : List Schema}
    (h : ∀ s ∈ schemas, Everywhere P s) (name : String) :
    ∀ child ∈ declared (shapes schemas) name, Everywhere P child := by
  intro child hchild
  obtain ⟨object, hobject, hfind⟩ := mem_declared.mp hchild
  obtain ⟨isOpen, hmem⟩ := mem_shapes.mp hobject
  refine (h _ hmem).child child ?_
  exact List.mem_map.mpr ⟨(name, child), Entries.mem_of_find? hfind, rfl⟩

theorem everywhere_itemSchemas {P : Schema → Prop} {schemas : List Schema}
    (h : ∀ s ∈ schemas, Everywhere P s) : ∀ items ∈ itemSchemas schemas, Everywhere P items := by
  intro items hitems
  exact (h _ (mem_itemSchemas.mp hitems)).child items (List.mem_singleton_self items)

/-- Merging recurs on what the objects declare for a name and on the item schemas of the arrays, so a
property of lists of schemas may be assumed of these. -/
theorem flat_induction {motive : List Schema → Prop} (nil : motive [])
    (step : ∀ schemas, schemas ≠ [] →
      (∀ name, motive (declared (shapes (flatten schemas)) name)) →
      motive (itemSchemas (flatten schemas)) → motive schemas)
    (schemas : List Schema) : motive schemas := by
  by_cases h : schemas = []
  · exact h ▸ nil
  · exact step schemas h (fun name => flat_induction nil step _) (flat_induction nil step _)
termination_by weightAll schemas
decreasing_by
  · exact lt_weightAll_of_flatten h (weightAll_declared_le _ _)
  · exact lt_weightAll_of_flatten h (weightAll_itemSchemas_le _)

/-- The same with single schemas apart, which are merged as they are. -/
theorem parts_induction {motive : List Schema → Prop} (nil : motive [])
    (single : ∀ schema, motive [schema])
    (several : ∀ first second rest,
      (∀ name, motive (declared (shapes (flatten (first :: second :: rest))) name)) →
      motive (itemSchemas (flatten (first :: second :: rest))) → motive (first :: second :: rest))
    (schemas : List Schema) : motive schemas := by
  induction schemas using flat_induction with
  | nil => exact nil
  | step schemas hne hdeclared hitems =>
    rcases schemas with _ | ⟨first, _ | ⟨second, rest⟩⟩
    · exact nil
    · exact single first
    · exact several first second rest hdeclared hitems

/-! ## Unions -/

theorem distinctKnown_sublist (seen : List Primitive) (schemas : List Schema) :
    (distinctKnown seen schemas).Sublist schemas := by
  induction schemas generalizing seen with
  | nil => exact List.Sublist.slnil
  | cons schema rest ih =>
    cases schema with
    | primitive type =>
      rw [distinctKnown]
      split
      · exact (ih seen).cons _
      · exact (ih _).cons_cons _
    | object properties required isOpen => exact (ih seen).cons_cons _
    | array items => exact (ih seen).cons_cons _
    | any => exact (ih seen).cons _
    | union members => exact (ih seen).cons _

theorem kind_ne_unknown_of_mem_distinctKnown {seen : List Primitive} {schemas : List Schema}
    {s : Schema} (h : s ∈ distinctKnown seen schemas) : s.kind ≠ .unknown := by
  induction schemas generalizing seen with
  | nil => cases h
  | cons schema rest ih =>
    cases schema with
    | primitive type =>
      rw [distinctKnown] at h
      split at h
      next => exact ih h
      next =>
        rcases List.mem_cons.mp h with rfl | hrest
        · exact nofun
        · exact ih hrest
    | object properties required isOpen =>
      rcases List.mem_cons.mp h with rfl | hrest
      · exact nofun
      · exact ih hrest
    | array items =>
      rcases List.mem_cons.mp h with rfl | hrest
      · exact nofun
      · exact ih hrest
    | any => exact ih h
    | union members => exact ih h

/-- What is known of the rest of a list, whatever came before, is known of the list. -/
theorem mem_distinctKnown_cons {s schema : Schema} {rest : List Schema}
    (h : ∀ seen, s ∈ distinctKnown seen rest) (seen : List Primitive) :
    s ∈ distinctKnown seen (schema :: rest) := by
  cases schema with
  | primitive type =>
    rw [distinctKnown]
    split
    · exact h seen
    · exact List.mem_cons_of_mem _ (h _)
  | object properties required isOpen => exact List.mem_cons_of_mem _ (h seen)
  | array items => exact List.mem_cons_of_mem _ (h seen)
  | any => exact h seen
  | union members => exact h seen

/-- Objects and arrays are all known. -/
theorem mem_distinctKnown_of_structured {s : Schema} (hs : s.kind = .object ∨ s.kind = .array)
    {schemas : List Schema} (hmem : s ∈ schemas) (seen : List Primitive) :
    s ∈ distinctKnown seen schemas := by
  induction schemas generalizing seen with
  | nil => cases hmem
  | cons schema rest ih =>
    rcases List.mem_cons.mp hmem with rfl | hrest
    · -- Only primitives are looked up among those seen before.
      cases s with
      | object properties required isOpen => exact List.mem_cons_self ..
      | array items => exact List.mem_cons_self ..
      | any => simp [kind] at hs
      | primitive type => simp [kind] at hs
      | union members => simp [kind] at hs
    · exact mem_distinctKnown_cons (ih hrest) seen

/-- The first primitive of a list that has a place. -/
def holder? (place : Primitive) : List Schema → Option Primitive
  | [] => none
  | .primitive type :: rest => if slot type = place then some type else holder? place rest
  | _ :: rest => holder? place rest

theorem slot_of_holder? {place type : Primitive} {schemas : List Schema}
    (h : holder? place schemas = some type) : slot type = place := by
  induction schemas with
  | nil => cases h
  | cons schema rest ih =>
    cases schema with
    | primitive first =>
      rw [holder?] at h
      split at h
      next hslot => cases h; exact hslot
      next => exact ih h
    | any => exact ih h
    | object properties required isOpen => exact ih h
    | array items => exact ih h
    | union members => exact ih h

theorem exists_holder? {type : Primitive} {schemas : List Schema}
    (h : .primitive type ∈ schemas) : ∃ other, holder? (slot type) schemas = some other := by
  induction schemas with
  | nil => cases h
  | cons schema rest ih =>
    rcases List.mem_cons.mp h with rfl | hrest
    · exact ⟨type, if_pos rfl⟩
    · cases schema with
      | primitive first =>
        rw [holder?]
        split
        · exact ⟨first, rfl⟩
        · exact ih hrest
      | any => exact ih hrest
      | object properties required isOpen => exact ih hrest
      | array items => exact ih hrest
      | union members => exact ih hrest

/-- The first primitive with a place is known, unless the place was taken before. -/
theorem mem_distinctKnown_of_holder? {place type : Primitive} {schemas : List Schema}
    (h : holder? place schemas = some type) {seen : List Primitive} (hseen : place ∉ seen) :
    .primitive type ∈ distinctKnown seen schemas := by
  induction schemas generalizing seen with
  | nil => cases h
  | cons schema rest ih =>
    cases schema with
    | primitive first =>
      rw [holder?] at h
      rw [distinctKnown]
      split at h
      next hslot =>
        -- It takes the place.
        cases h
        rw [if_neg (by simpa [hslot] using hseen)]
        exact List.mem_cons_self ..
      next hslot =>
        have hfree : place ∉ slot first :: seen := by simp [Ne.symm hslot, hseen]
        split
        · exact ih h hseen
        · exact List.mem_cons_of_mem _ (ih h hfree)
    | object properties required isOpen => exact List.mem_cons_of_mem _ (ih h hseen)
    | array items => exact List.mem_cons_of_mem _ (ih h hseen)
    | any => exact ih h hseen
    | union members => exact ih h hseen

/-- A primitive is known by one with the same place. -/
theorem exists_slot_mem_distinctKnown {type : Primitive} {schemas : List Schema}
    (hmem : .primitive type ∈ schemas) {seen : List Primitive} (hseen : slot type ∉ seen) :
    ∃ other, .primitive other ∈ distinctKnown seen schemas ∧ slot other = slot type := by
  obtain ⟨other, hother⟩ := exists_holder? hmem
  exact ⟨other, mem_distinctKnown_of_holder? hother hseen, slot_of_holder? hother⟩

/-- What a list adds to what is known of the list before it depends on the places that are taken by
then. -/
theorem exists_distinctKnown_append (seen : List Primitive) (schemas : List Schema) :
    ∃ taken, seen ⊆ taken ∧ (∀ type, .primitive type ∈ schemas → slot type ∈ taken) ∧
      ∀ more, distinctKnown seen (schemas ++ more) =
        distinctKnown seen schemas ++ distinctKnown taken more := by
  induction schemas generalizing seen with
  | nil => exact ⟨seen, List.Subset.refl seen, nofun, fun more => rfl⟩
  | cons schema rest ih =>
    cases schema with
    | primitive type =>
      by_cases hseen : seen.contains (slot type) = true
      · obtain ⟨taken, hsubset, hplaces, happend⟩ := ih seen
        refine ⟨taken, hsubset, fun other hother => ?_, fun more => ?_⟩
        · rcases List.mem_cons.mp hother with heq | hrest
          · cases heq
            exact hsubset (List.contains_iff_mem.mp hseen)
          · exact hplaces other hrest
        · rw [List.cons_append, distinctKnown, if_pos hseen, distinctKnown, if_pos hseen, happend]
      · obtain ⟨taken, hsubset, hplaces, happend⟩ := ih (slot type :: seen)
        obtain ⟨hplace, hseen'⟩ := List.cons_subset.mp hsubset
        refine ⟨taken, hseen', fun other hother => ?_, fun more => ?_⟩
        · rcases List.mem_cons.mp hother with heq | hrest
          · cases heq
            exact hplace
          · exact hplaces other hrest
        · rw [List.cons_append, distinctKnown, if_neg hseen, distinctKnown, if_neg hseen, happend,
            List.cons_append]
    | _ =>
      obtain ⟨taken, hsubset, hplaces, happend⟩ := ih seen
      refine ⟨taken, hsubset, fun other hother => hplaces other (by simpa using hother), ?_⟩
      intro more
      simp [distinctKnown, happend]

/-- A known primitive has a place that was free. -/
theorem slot_not_mem_of_mem_distinctKnown {type : Primitive} {seen : List Primitive}
    {schemas : List Schema} (h : .primitive type ∈ distinctKnown seen schemas) :
    slot type ∉ seen := by
  induction schemas generalizing seen with
  | nil => cases h
  | cons schema rest ih =>
    cases schema with
    | primitive first =>
      rw [distinctKnown] at h
      split at h
      next => exact ih h
      next hfree =>
        rcases List.mem_cons.mp h with heq | hrest
        · cases heq
          simpa using hfree
        · exact fun hmem => ih hrest (List.mem_cons_of_mem _ hmem)
    | _ => exact ih (by simpa [distinctKnown] using h)

/-- What is known is known of itself. -/
theorem distinctKnown_distinctKnown (seen : List Primitive) (schemas : List Schema) :
    distinctKnown seen (distinctKnown seen schemas) = distinctKnown seen schemas := by
  induction schemas generalizing seen with
  | nil => rfl
  | cons schema rest ih =>
    cases schema with
    | primitive type =>
      rw [distinctKnown]
      split
      next => exact ih seen
      next hfree => rw [distinctKnown, if_neg hfree, ih]
    | _ => simp [distinctKnown, ih]

/-- Where several kinds are listed, some schema is not of a given kind. -/
theorem exists_kind_ne_of_several {schemas : List Schema} (h : 2 ≤ (kinds schemas).length)
    (k : Kind) : ∃ s ∈ schemas, s.kind ≠ k := by
  have hnodup : (kinds schemas).Nodup := nodup_eraseDups _
  match hk : kinds schemas with
  | [] => simp [hk] at h
  | [_] => simp [hk] at h
  | a :: b :: rest =>
    rw [hk] at hnodup
    have hne : a ≠ b := by
      rintro rfl
      exact (List.nodup_cons.mp hnodup).1 (List.mem_cons_self ..)
    -- The two kinds differ, so one of them is another one than `k`.
    by_cases ha : a = k
    · obtain ⟨s, hs, hkind⟩ := mem_kinds.mp (hk ▸ List.mem_cons_of_mem a (List.mem_cons_self ..))
      exact ⟨s, hs, fun h => hne (ha.trans (h.symm.trans hkind))⟩
    · obtain ⟨s, hs, hkind⟩ := mem_kinds.mp (hk ▸ List.mem_cons_self ..)
      exact ⟨s, hs, fun h => ha (hkind.symm.trans h)⟩

/-- A schema of a known kind makes something known. -/
theorem distinctKnown_ne_nil {schemas : List Schema} {s : Schema} (hs : s ∈ schemas)
    (hkind : s.kind ≠ .unknown) : distinctKnown [] schemas ≠ [] := by
  cases s with
  | primitive type =>
    obtain ⟨other, hother, -⟩ := exists_slot_mem_distinctKnown hs (List.not_mem_nil)
    exact List.ne_nil_of_mem hother
  | object properties required isOpen =>
    exact List.ne_nil_of_mem (mem_distinctKnown_of_structured (.inl rfl) hs [])
  | array items => exact List.ne_nil_of_mem (mem_distinctKnown_of_structured (.inr rfl) hs [])
  | any => exact absurd rfl hkind
  | union members => exact absurd rfl hkind

/-- The ways in which schemas of several kinds become one. -/
inductive Joined (schemas : List Schema) : Schema → Prop where
  /-- One schema stands for all of them. -/
  | only (known : ∀ s ∈ schemas, s.kind ≠ .unknown) (s : Schema)
      (one : distinctKnown [] schemas = [s]) : Joined schemas s
  /-- There are several known schemas and no unknown one. -/
  | known (known : ∀ s ∈ schemas, s.kind ≠ .unknown)
      (several : 2 ≤ (distinctKnown [] schemas).length) :
      Joined schemas (.union (distinctKnown [] schemas))
  /-- There are known schemas and unknown ones. -/
  | unknown (some : distinctKnown [] schemas ≠ []) :
      Joined schemas (.union (distinctKnown [] schemas ++ [.any]))

theorem joined_unionOf {schemas : List Schema} (h : 2 ≤ (kinds schemas).length) :
    Joined schemas (unionOf schemas) := by
  obtain ⟨s, hs, hkind⟩ := exists_kind_ne_of_several h .unknown
  have hne := distinctKnown_ne_nil hs hkind
  rw [unionOf]
  split
  · exact .unknown hne
  · next hknown =>
    have hknown : ∀ s ∈ schemas, s.kind ≠ .unknown := by simpa using hknown
    split
    next only hone => exact .only hknown only hone
    next hmany =>
      refine .known hknown ?_
      rcases hd : distinctKnown [] schemas with _ | ⟨only, _ | ⟨other, others⟩⟩
      · exact absurd hd hne
      · exact absurd hd (hmany only)
      · simp

/-- The alternatives of a union that schemas of several kinds became: the known ones, which are
several and all there is, or stand before an unknown one. -/
theorem alternatives_of_joined {schemas alternatives : List Schema}
    (h : Joined schemas (.union alternatives)) (hno : ∀ s ∈ schemas, s ≠ .union alternatives) :
    (alternatives = distinctKnown [] schemas ∧ 2 ≤ alternatives.length ∧
        ∀ s ∈ schemas, s.kind ≠ .unknown) ∨
      (alternatives = distinctKnown [] schemas ++ [.any] ∧ distinctKnown [] schemas ≠ []) := by
  -- A single known schema is one of the list, which has no such union.
  generalize hu : Schema.union alternatives = u at h
  cases h with
  | only known s one =>
    have hmem : u ∈ distinctKnown [] schemas := one ▸ List.mem_singleton_self u
    exact absurd hu.symm (hno u ((distinctKnown_sublist [] schemas).subset hmem))
  | known known several =>
    cases hu
    exact .inl ⟨rfl, several, known⟩
  | unknown some =>
    cases hu
    exact .inr ⟨rfl, some⟩

/-- An alternative of such a union is one of the schemas or accepts anything. -/
theorem mem_of_mem_joined {schemas alternatives : List Schema}
    (h : Joined schemas (.union alternatives)) (hno : ∀ s ∈ schemas, s ≠ .union alternatives)
    {s : Schema} (hs : s ∈ alternatives) : s ∈ schemas ∨ s = .any := by
  rcases alternatives_of_joined h hno with ⟨rfl, -⟩ | ⟨rfl, -⟩
  · exact .inl ((distinctKnown_sublist [] schemas).subset hs)
  · rcases List.mem_append.mp hs with hs | hs
    · exact .inl ((distinctKnown_sublist [] schemas).subset hs)
    · exact .inr (List.mem_singleton.mp hs)

/-! ## Properties of every node -/

/-- A property that every node made by merging has. -/
structure MergeStable (P : Schema → Prop) : Prop where
  any : P .any
  object : ∀ objects, P (mergedObject objects)
  array : ∀ items, P (.array (some items))
  union : ∀ schemas alternatives, 2 ≤ (kinds schemas).length →
    (∀ s ∈ schemas, ∀ members, s ≠ .union members) → Joined schemas (.union alternatives) →
    P (.union alternatives)

variable {P : Schema → Prop}

/-- Schemas of several kinds become one that has a property everywhere if they have. -/
theorem everywhere_joined (hP : MergeStable P) {schemas : List Schema}
    (hkinds : 2 ≤ (kinds schemas).length) (hno : ∀ s ∈ schemas, ∀ members, s ≠ .union members)
    (h : ∀ s ∈ schemas, Everywhere P s) {joined : Schema} (hj : Joined schemas joined) :
    Everywhere P joined := by
  by_cases hunion : ∃ alternatives, joined = .union alternatives
  · -- The union itself is a new node, and its alternatives are old ones.
    obtain ⟨alternatives, rfl⟩ := hunion
    refine .node (hP.union schemas alternatives hkinds hno hj) fun s hs => ?_
    rcases mem_of_mem_joined hj (fun s hs => hno s hs alternatives) hs with hs | rfl
    · exact h s hs
    · exact .node hP.any (by simp [children])
  · cases hj with
    | only known s one =>
      have hmem : joined ∈ distinctKnown [] schemas := one ▸ List.mem_singleton_self joined
      exact h joined ((distinctKnown_sublist [] schemas).subset hmem)
    | known known several => exact absurd ⟨_, rfl⟩ hunion
    | unknown some => exact absurd ⟨_, rfl⟩ hunion

/-- What holds at every node of some schemas holds at every node of the merged one. -/
theorem everywhere_merge (hP : MergeStable P) {schemas : List Schema}
    (h : ∀ s ∈ schemas, Everywhere P s) : Everywhere P (merge schemas) := by
  induction schemas using parts_induction with
  | nil =>
    rw [merge]
    exact .node hP.any (by simp [children])
  | single schema =>
    rw [merge]
    exact h schema (List.mem_singleton_self schema)
  | several first second rest hdeclared hitems =>
    have hflat : ∀ s ∈ flatten (first :: second :: rest), Everywhere P s := fun s hs =>
      everywhere_of_mem_flatten h hs
    have hmerged := merged_flatten first second rest
    generalize merge (first :: second :: rest) = merged at hmerged
    -- Merged objects, arrays and unions are new nodes; what is below them was merged before.
    cases hmerged with
    | unknown all => exact .node hP.any (by simp [children])
    | primitive type some all => exact hflat _ some
    | object all =>
      refine .node (hP.object _) fun child hchild => ?_
      simp only [mergedObject, children, List.map_map, List.mem_map] at hchild
      obtain ⟨name, -, rfl⟩ := hchild
      exact hdeclared name (everywhere_declared hflat name)
    | array all =>
      refine .node (hP.array _) fun child hchild => ?_
      rw [children, List.mem_singleton] at hchild
      rw [hchild]
      exact hitems (everywhere_itemSchemas hflat)
    | union several =>
      exact everywhere_joined hP several (fun s hs => ne_union_of_mem_flatten _ hs) hflat
        (joined_unionOf several)

end ApiToolkit.Schema
