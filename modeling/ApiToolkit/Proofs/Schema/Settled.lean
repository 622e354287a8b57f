import ApiToolkit.Proofs.Schema.Inference
import ApiToolkit.Proofs.Schema.NormalForm
/-!
# Schemas that merging leaves as they are

`Schema.merge` gives a single schema back without a look at it, and merges several by their kinds.
For the schemas that inference and merging make there is no difference: such a schema is what its own
alternatives are merged into.

## What is inside

- `Schema.Settled`: merging by kinds leaves every node of the schema as it is.
- `Schema.exists_known_kind_ne`: what is known of schemas of several kinds.
- `Schema.mergeStable_settled`, `Schema.settled_merge`, `Schema.settled_infer`: merging and inference
  make settled schemas.
- `Schema.merge_of_settled`, `Schema.merge_of_objects`: settled schemas are merged by their kinds,
  however many there are.
-/

namespace ApiToolkit.Schema

/-- Every node of the schema is what its alternatives are merged into. -/
def Settled (schema : Schema) : Prop :=
  Everywhere (fun s => mergeFlat s.alternatives = s) schema

/-! ## Objects and arrays -/

theorem kinds_singleton (schema : Schema) : kinds [schema] = [schema.kind] := rfl

/-- An object by itself is merged into itself, if its names are distinct and what it requires is
declared, in this order. -/
theorem mergedObject_singleton (object : Shape) (hnodup : object.properties.keys.Nodup)
    (hrequired : object.properties.keys.filter object.required.contains = object.required) :
    mergedObject [object] =
      .object object.properties object.required object.properties.keys.isEmpty := by
  have hnames : propertyNames [object] = object.properties.keys := by
    rw [propertyNames, List.flatMap_singleton, eraseDups_of_nodup hnodup]
  have heach : ∀ entry ∈ object.properties,
      (entry.1, merge (declared [object] entry.1)) = entry := by
    intro entry hentry
    have hfind := Entries.find?_of_mem hnodup hentry
    rw [declared, List.filterMap_cons, hfind, List.filterMap_nil, merge]
  rw [mergedObject, hnames]
  congr 1
  · rw [Entries.keys, List.map_map]
    exact (List.map_congr_left heach).trans (List.map_id' _)
  · exact (List.filter_congr fun name _ => Bool.and_true _).trans hrequired

theorem mergeFlat_object {properties : Entries Schema} {required : List String} {isOpen : Bool}
    (hnodup : properties.keys.Nodup)
    (hrequired : properties.keys.filter required.contains = required)
    (hopen : isOpen = properties.keys.isEmpty) :
    mergeFlat [.object properties required isOpen] = .object properties required isOpen := by
  rw [mergeFlat_of_object (kinds_singleton _), hopen]
  exact mergedObject_singleton ⟨properties, required⟩ hnodup hrequired

theorem keys_mergedProperties (names : List String) (f : String → Schema) :
    Entries.keys (names.map fun name => (name, f name)) = names := by
  rw [Entries.keys, List.map_map]
  exact List.map_id' names

theorem mergeFlat_mergedObject (objects : List Shape) :
    mergeFlat [mergedObject objects] = mergedObject objects := by
  rw [mergedObject]
  apply mergeFlat_object
  · rw [keys_mergedProperties]
    exact nodup_eraseDups _
  · -- A name is among those that are required by all if it is required by all.
    rw [keys_mergedProperties]
    apply List.filter_congr
    intro name hname
    rw [Bool.eq_iff_iff, List.contains_iff_mem, List.mem_filter]
    exact ⟨fun h => h.2, fun h => ⟨hname, h⟩⟩
  · rw [keys_mergedProperties]

theorem mergeFlat_array (items : Schema) : mergeFlat [.array (some items)] = .array (some items) := by
  rw [mergeFlat_of_array (kinds_singleton _), itemSchemas, itemSchemas, merge]

/-! ## Unions -/

theorem two_le_length_kinds {schemas : List Schema} {s t : Schema} (hs : s ∈ schemas)
    (ht : t ∈ schemas) (hne : s.kind ≠ t.kind) : 2 ≤ (kinds schemas).length := by
  rcases kinds_cases schemas with hk | ⟨k, hk⟩ | hk
  · have hmem : s.kind ∈ kinds schemas := mem_kinds.mpr ⟨s, hs, rfl⟩
    rw [hk] at hmem
    cases hmem
  · have hkind := kind_eq_of_kinds_eq_singleton hk
    exact absurd ((hkind s hs).trans (hkind t ht).symm) hne
  · exact hk

/-- Where schemas are of several kinds and none is unknown, they are not all known as objects, and
not all as arrays. -/
theorem exists_known_kind_ne {schemas : List Schema} (several : 2 ≤ (kinds schemas).length)
    (known : ∀ s ∈ schemas, s.kind ≠ .unknown) {k : Kind} (hk : k = .object ∨ k = .array) :
    ∃ t ∈ distinctKnown [] schemas, t.kind ≠ k := by
  obtain ⟨s, hs, hkind⟩ := exists_kind_ne_of_several several k
  cases s with
  | primitive type =>
    -- The primitive that is kept in its place is neither an object nor an array.
    obtain ⟨other, hother, -⟩ := exists_slot_mem_distinctKnown hs List.not_mem_nil
    refine ⟨_, hother, ?_⟩
    rcases hk with rfl | rfl <;> exact nofun
  | object properties required isOpen =>
    exact ⟨_, mem_distinctKnown_of_structured (.inl rfl) hs [], hkind⟩
  | array items => exact ⟨_, mem_distinctKnown_of_structured (.inr rfl) hs [], hkind⟩
  | any => exact absurd rfl (known _ hs)
  | union members => exact absurd rfl (known _ hs)

/-- Two schemas that are known of schemas of several kinds are not of one kind. -/
theorem two_le_length_kinds_distinctKnown {schemas : List Schema}
    (several : 2 ≤ (kinds schemas).length) (known : ∀ s ∈ schemas, s.kind ≠ .unknown)
    (more : 2 ≤ (distinctKnown [] schemas).length) :
    2 ≤ (kinds (distinctKnown [] schemas)).length := by
  match hd : distinctKnown [] schemas with
  | [] => simp [hd] at more
  | [_] => simp [hd] at more
  | first :: second :: rest =>
    have hfirst : first ∈ first :: second :: rest := List.mem_cons_self ..
    have hsecond : second ∈ first :: second :: rest := by simp
    cases hkind : first.kind with
    | object =>
      obtain ⟨t, ht, hne⟩ := exists_known_kind_ne several known (.inl hkind)
      exact two_le_length_kinds (hd ▸ ht) hfirst hne
    | array =>
      obtain ⟨t, ht, hne⟩ := exists_known_kind_ne several known (.inr hkind)
      exact two_le_length_kinds (hd ▸ ht) hfirst hne
    | unknown => exact absurd hkind (kind_ne_unknown_of_mem_distinctKnown (hd ▸ hfirst))
    | primitive type =>
      by_cases heq : second.kind = first.kind
      · -- The second one would have the place of the first one.
        have hprimitive : ∀ s : Schema, s.kind = .primitive type → s = .primitive type := by
          intro s hs
          cases s <;> simp_all [kind]
        rw [hprimitive first hkind, hprimitive second (heq.trans hkind)] at hd
        have hself := distinctKnown_distinctKnown [] schemas
        rw [hd, distinctKnown, if_neg (by simp)] at hself
        have htail : .primitive type ∈ distinctKnown [slot type] (.primitive type :: rest) := by
          rw [List.tail_eq_of_cons_eq hself]
          exact List.mem_cons_self ..
        exact absurd (List.mem_singleton_self _) (slot_not_mem_of_mem_distinctKnown htail)
      · exact two_le_length_kinds hsecond hfirst heq

theorem flatten_of_ne_union {schemas : List Schema}
    (h : ∀ s ∈ schemas, ∀ members, s ≠ .union members) : flatten schemas = schemas := by
  rw [flatten_eq_flatMap, List.flatMap_congr fun s hs => alternatives_of_ne_union (h s hs),
    List.flatMap_singleton']

/-- A union of known schemas of several kinds is merged into itself. -/
theorem mergeFlat_known {schemas : List Schema} (several : 2 ≤ (kinds schemas).length)
    (known : ∀ s ∈ schemas, s.kind ≠ .unknown) (more : 2 ≤ (distinctKnown [] schemas).length) :
    mergeFlat (distinctKnown [] schemas) = .union (distinctKnown [] schemas) := by
  have hany : ((distinctKnown [] schemas).any fun s => s.kind == .unknown) = false := by
    rw [List.any_eq_false]
    intro s hs
    simpa using kind_ne_unknown_of_mem_distinctKnown hs
  rw [mergeFlat_of_several (two_le_length_kinds_distinctKnown several known more), unionOf_eq, hany,
    distinctKnown_distinctKnown]
  match distinctKnown [] schemas, more with
  | _ :: _ :: _, _ => rfl

/-- A union of known schemas and an unknown one is merged into itself. -/
theorem mergeFlat_unknown {schemas : List Schema} (some : distinctKnown [] schemas ≠ []) :
    mergeFlat (distinctKnown [] schemas ++ [.any]) = .union (distinctKnown [] schemas ++ [.any]) := by
  obtain ⟨first, hfirst⟩ := List.exists_mem_of_ne_nil _ some
  have hkinds : 2 ≤ (kinds (distinctKnown [] schemas ++ [.any])).length := by
    apply two_le_length_kinds (List.mem_append_left _ hfirst) (List.mem_concat_self ..)
    exact kind_ne_unknown_of_mem_distinctKnown hfirst
  have hany : (distinctKnown [] schemas ++ [Schema.any]).any (fun s => s.kind == .unknown) = true := by
    rw [List.any_append, Bool.or_eq_true]
    exact .inr rfl
  obtain ⟨taken, -, -, happend⟩ := exists_distinctKnown_append [] (distinctKnown [] schemas)
  rw [mergeFlat_of_several hkinds, unionOf_eq, hany, happend, distinctKnown_distinctKnown]
  simp [distinctKnown]

/-! ## Merging and inference -/

/-- **Settled nodes**: merging makes nodes that are merged into themselves. -/
theorem mergeStable_settled : MergeStable fun s => mergeFlat s.alternatives = s where
  any := rfl
  object objects := mergeFlat_mergedObject objects
  array items := mergeFlat_array items
  union schemas alternatives several hno hj := by
    have hsubset := (distinctKnown_sublist [] schemas).subset
    have hflat : flatten (distinctKnown [] schemas) = distinctKnown [] schemas :=
      flatten_of_ne_union fun s hs => hno s (hsubset hs)
    show mergeFlat (flatten alternatives) = .union alternatives
    rcases alternatives_of_joined hj fun s hs => hno s hs alternatives with
      ⟨rfl, more, known⟩ | ⟨rfl, some⟩
    · rw [hflat]
      exact mergeFlat_known several known more
    · have happend : flatten (distinctKnown [] schemas ++ [.any]) =
          distinctKnown [] schemas ++ [.any] := by
        rw [flatten_eq_flatMap, List.flatMap_append, ← flatten_eq_flatMap, hflat]
        rfl
      rw [happend]
      exact mergeFlat_unknown some

theorem settled_merge {schemas : List Schema} (h : ∀ s ∈ schemas, s.Settled) :
    (merge schemas).Settled := everywhere_merge mergeStable_settled h

/-- The schema of a sample is settled, whether or not properties are taken as required. -/
theorem settled_infer (strict : Bool) {sample : Json} (h : sample.Distinct) :
    (infer strict sample).Settled := by
  refine everywhere_infer strict mergeStable_settled (fun type _ => rfl) (fun entries hnodup => ?_) h
  have hkeys := keys_inferProperties strict entries
  rw [infer]
  apply mergeFlat_object
  · rw [hkeys]
    exact hnodup
  · cases strict with
    | true => exact List.filter_eq_self.mpr fun name hname => List.contains_iff_mem.mpr hname
    | false => exact List.filter_eq_nil_iff.mpr fun name _ => by simp
  · rw [hkeys]
    cases entries <;> rfl

/-- **Settled schemas** are merged by their kinds, however many there are. -/
theorem merge_of_settled {schemas : List Schema} (hne : schemas ≠ [])
    (h : ∀ s ∈ schemas, s.Settled) : merge schemas = mergeFlat (flatten schemas) := by
  match schemas with
  | [] => exact absurd rfl hne
  | [schema] =>
    rw [merge, flatten, flatten, List.append_nil]
    exact ((h schema (List.mem_singleton_self schema)).here).symm
  | first :: second :: rest => exact merge_of_several first second rest

theorem kinds_of_forall {schemas : List Schema} (hne : schemas ≠ []) {k : Kind}
    (h : ∀ s ∈ schemas, s.kind = k) : kinds schemas = [k] := by
  obtain ⟨first, hfirst⟩ := List.exists_mem_of_ne_nil _ hne
  rcases kinds_cases schemas with hk | ⟨other, hk⟩ | hk
  · have hmem : first.kind ∈ kinds schemas := mem_kinds.mpr ⟨first, hfirst, rfl⟩
    rw [hk] at hmem
    cases hmem
  · rw [hk, ← h first hfirst, kind_eq_of_kinds_eq_singleton hk first hfirst]
  · obtain ⟨s, hs, hkind⟩ := exists_kind_ne_of_several hk k
    exact absurd (h s hs) hkind

/-- **Settled objects** are merged key by key, also a single one. -/
theorem merge_of_objects {schemas : List Schema} (hne : schemas ≠ [])
    (h : ∀ s ∈ schemas, s.Settled) (hobject : ∀ s ∈ schemas, s.kind = .object) :
    merge schemas = mergedObject (shapes schemas) := by
  have hflat : flatten schemas = schemas := flatten_of_ne_union fun s hs members heq => by
    have hkind := hobject s hs
    rw [heq] at hkind
    cases hkind
  rw [merge_of_settled hne h, hflat, mergeFlat_of_object (kinds_of_forall hne hobject)]

end ApiToolkit.Schema
