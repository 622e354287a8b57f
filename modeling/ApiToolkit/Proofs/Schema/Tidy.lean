import ApiToolkit.Proofs.Schema.Inference
import ApiToolkit.Proofs.Schema.Settled
/-!
# The form of merged samples

Unions are spliced and made again whenever schemas are merged, objects are closed and opened again,
and a single schema is not looked at.  The schemas of samples keep one form through all of this.

## What is inside

- `Schema.DistinctTypes`: no two alternatives are primitives of one type.
- `Schema.TidyAlternatives`, `Schema.Tidy`: the form of a union, and of every node.
- `Schema.tidyAlternatives_of_joined`: the unions that merging makes.
- `Schema.tidy_merge_infer`: the form of merged samples.
-/

namespace ApiToolkit.Schema

/-! ## Types of alternatives -/

/-- The type of a primitive. -/
def type? : Schema → Option Primitive
  | .primitive type => some type
  | _ => none

/-- No two of the alternatives are primitives of one type. -/
def DistinctTypes (alternatives : List Schema) : Prop := (alternatives.filterMap type?).Nodup

instance (alternatives : List Schema) : Decidable (DistinctTypes alternatives) :=
  inferInstanceAs (Decidable (alternatives.filterMap type?).Nodup)

theorem type?_eq_some_iff {schema : Schema} {type : Primitive} :
    type? schema = some type ↔ schema = .primitive type := by
  cases schema <;> simp [type?]

/-- Of the primitives with one place only one is known, so no type is known twice. -/
theorem distinctTypes_distinctKnown (seen : List Primitive) (schemas : List Schema) :
    DistinctTypes (distinctKnown seen schemas) := by
  induction schemas generalizing seen with
  | nil => exact List.nodup_nil
  | cons schema rest ih =>
    cases schema with
    | primitive type =>
      rw [distinctKnown]
      split
      next => exact ih seen
      next =>
        refine List.nodup_cons.mpr ⟨fun hagain => ?_, ih _⟩
        -- The same type further on would have the place that is taken here.
        obtain ⟨s, hs, htype⟩ := List.mem_filterMap.mp hagain
        obtain rfl := type?_eq_some_iff.mp htype
        exact slot_not_mem_of_mem_distinctKnown hs (List.mem_cons_self ..)
    | object properties required isOpen => exact ih seen
    | array items => exact ih seen
    | any => exact ih seen
    | union members => exact ih seen

/-! ## The form of a node -/

/-- The alternatives of a union that merging makes. -/
structure TidyAlternatives (alternatives : List Schema) : Prop where
  /-- There are several. -/
  several : 2 ≤ alternatives.length
  /-- None of them is a union itself. -/
  flat : ∀ s ∈ alternatives, ∀ members, s ≠ .union members
  /-- No two of them are primitives of one type. -/
  distinct : DistinctTypes alternatives
  /-- They are not all of one kind. -/
  mixed : ∀ k, ∃ s ∈ alternatives, s.kind ≠ k
  /-- What accepts anything stands at the end, if at all. -/
  anyLast : .any ∉ alternatives.dropLast

/-- The form of a node.  Objects require what they declare and are open if they declare nothing,
arrays say what their elements are, and there are no integers. -/
def TidyNode : Schema → Prop
  | .any => True
  | .primitive type => type ≠ .integer
  | .object properties required isOpen =>
    (∀ name ∈ required, Entries.has properties name = true) ∧ (isOpen = true ↔ properties = [])
  | .array items => items.isSome = true
  | .union alternatives => TidyAlternatives alternatives

/-- All nodes of the schema have that form. -/
def Tidy (schema : Schema) : Prop := Everywhere TidyNode schema

/-! ## Merging -/

/-- **Unions**: where schemas of several kinds become a union, its alternatives are tidy. -/
theorem tidyAlternatives_of_joined {schemas alternatives : List Schema}
    (several : 2 ≤ (kinds schemas).length) (hno : ∀ s ∈ schemas, ∀ members, s ≠ .union members)
    (hj : Joined schemas (.union alternatives)) : TidyAlternatives alternatives := by
  have hdistinct : DistinctTypes (distinctKnown [] schemas) := distinctTypes_distinctKnown [] schemas
  have hflat : ∀ s ∈ distinctKnown [] schemas, ∀ members, s ≠ .union members := fun s hs =>
    hno s ((distinctKnown_sublist [] schemas).subset hs)
  have hknown : .any ∉ distinctKnown [] schemas := fun hany =>
    kind_ne_unknown_of_mem_distinctKnown hany rfl
  rcases alternatives_of_joined hj fun s hs => hno s hs alternatives with
    ⟨rfl, more, known⟩ | ⟨rfl, some⟩
  · -- The known schemas are as mixed as all of them were.
    have hkinds := two_le_length_kinds_distinctKnown several known more
    exact {
      several := more
      flat := hflat
      distinct := hdistinct
      mixed := exists_kind_ne_of_several hkinds
      anyLast := fun hany => hknown (List.dropLast_subset _ hany) }
  · -- Whatever is known stands before the alternative that accepts anything.
    obtain ⟨first, hfirst⟩ := List.exists_mem_of_ne_nil _ some
    have hkinds : 2 ≤ (kinds (distinctKnown [] schemas ++ [.any])).length :=
      two_le_length_kinds (List.mem_append_left _ hfirst) (List.mem_concat_self ..)
        (kind_ne_unknown_of_mem_distinctKnown hfirst)
    exact {
      several := by
        have hpos := List.length_pos_iff.mpr some
        rw [List.length_append, List.length_singleton]
        omega
      flat := List.forall_mem_append.mpr ⟨hflat, List.forall_mem_singleton.mpr nofun⟩
      distinct := by
        have hnone : [Schema.any].filterMap type? = [] := rfl
        rwa [DistinctTypes, List.filterMap_append, hnone, List.append_nil]
      mixed := exists_kind_ne_of_several hkinds
      anyLast := by rwa [List.dropLast_concat] }

theorem mergeStable_tidyNode : MergeStable TidyNode where
  any := trivial
  object objects := by
    refine ⟨fun name hname => ?_, ?_⟩
    · rw [Entries.has, Entries.find?_map_names, if_pos (List.mem_of_mem_filter hname)]
      rfl
    · rw [List.isEmpty_iff, List.map_eq_nil_iff]
  array _ := rfl
  union _ _ several hno hj := tidyAlternatives_of_joined several hno hj

/-! ## Samples -/

theorem tidyNode_infer_obj (strict : Bool) (entries : Entries Json) :
    TidyNode (infer strict (.obj entries)) := by
  refine ⟨fun name hname => ?_, ?_⟩
  · cases strict with
    | true => exact Entries.has_iff.mpr hname
    | false => exact absurd hname List.not_mem_nil
  · rw [List.isEmpty_iff, inferProperties_eq_map, List.map_eq_nil_iff]

theorem tidy_infer (strict : Bool) (sample : Json) : (infer strict sample).Tidy :=
  everywhere_infer_of_forall strict mergeStable_tidyNode (fun _ hne => hne)
    (tidyNode_infer_obj strict) sample

/-- **Merged samples** are tidy at every depth, whether or not properties are taken as required. -/
theorem tidy_merge_infer (strict : Bool) (samples : List Json) :
    (merge (samples.map (infer strict))).Tidy := by
  refine everywhere_merge mergeStable_tidyNode fun s hs => ?_
  obtain ⟨sample, -, rfl⟩ := List.mem_map.mp hs
  exact tidy_infer strict sample

end ApiToolkit.Schema
