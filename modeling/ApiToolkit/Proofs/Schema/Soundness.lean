import ApiToolkit.Proofs.Schema.Acceptance
import ApiToolkit.Proofs.Schema.Inference
/-!
# Samples are accepted by the schema inferred from them

Merging objects closes them and drops arrays without an item schema, so a merged schema need not
accept all that one of its parts accepts.  What is kept is a narrower relation: a schema describes
a value if every key and every element of the value has its place in the schema.

## What is inside

- `Schema.Describes`: every part of a value has its place in a schema.
- `Schema.describes_merge`: merging keeps the values that the schemas describe.
- `Schema.describes_infer`: the schema of a sample describes it.
- `Schema.accepts_of_describes`: described values are accepted where no integer is asked for.
- `Schema.accepts_merge_infer`: merged samples are all accepted.
-/

namespace ApiToolkit.Schema

/-! ## Description -/

/-- Every part of a value has its place in a schema.  Objects are read as closed, an array without
an item schema has no place for elements, and integers are numbers. -/
inductive Describes : Schema → Json → Prop where
  | any (value : Json) : Describes .any value
  | primitive {type : Primitive} {value : Json} (typed : (slot type).accepts value = true) :
      Describes (.primitive type) value
  | object {properties : Entries Schema} {required : List String} {isOpen : Bool}
      {entries : Entries Json} (present : ∀ name ∈ required, entries.has name = true)
      (declared : ∀ name, entries.has name = true → properties.has name = true)
      (each : ∀ name child value, properties.find? name = some child →
        entries.find? name = some value → Describes child value) :
      Describes (.object properties required isOpen) (.obj entries)
  | emptyArray (items : Option Schema) : Describes (.array items) (.arr [])
  | array {items : Schema} {values : List Json} (each : ∀ value ∈ values, Describes items value) :
      Describes (.array (some items)) (.arr values)
  | union {alternatives : List Schema} {alternative : Schema} {value : Json}
      (member : alternative ∈ alternatives) (described : Describes alternative value) :
      Describes (.union alternatives) value

/-- No integer is asked for. -/
def IntegerFree (schema : Schema) : Prop := Everywhere (fun s => s ≠ .primitive .integer) schema

/-- Where no integer is asked for, described values are accepted. -/
theorem accepts_of_describes {schema : Schema} {value : Json} (hfree : schema.IntegerFree)
    (h : Describes schema value) : Accepts schema value := by
  induction h with
  | any value => exact .any value
  | @primitive type value typed =>
    refine .primitive ?_
    cases type with
    | integer => exact absurd rfl hfree.here
    | string => exact typed
    | number => exact typed
    | boolean => exact typed
    | null => exact typed
  | object present declared each ih =>
    refine .object present (fun name child value hchild hvalue => ?_) fun _ => declared
    refine ih name child value hchild hvalue (hfree.child child ?_)
    exact List.mem_map.mpr ⟨(name, child), Entries.mem_of_find? hchild, rfl⟩
  | emptyArray items => exact .array (fun child _ value hvalue => absurd hvalue (List.not_mem_nil))
  | @array items values each ih =>
    refine .array fun child hchild value hvalue => ?_
    cases hchild
    exact ih value hvalue (hfree.child items (List.mem_singleton_self items))
  | union member described ih => exact .union member (ih (hfree.child _ member))

/-! ## Merging -/

/-- A described value is described by an alternative. -/
theorem exists_alternative_describes {schema : Schema} {value : Json}
    (h : Describes schema value) : ∃ s ∈ schema.alternatives, Describes s value := by
  induction h with
  | any value => exact ⟨_, List.mem_singleton_self _, .any value⟩
  | primitive typed => exact ⟨_, List.mem_singleton_self _, .primitive typed⟩
  | object present declared each =>
    exact ⟨_, List.mem_singleton_self _, .object present declared each⟩
  | emptyArray items => exact ⟨_, List.mem_singleton_self _, .emptyArray items⟩
  | array each => exact ⟨_, List.mem_singleton_self _, .array each⟩
  | union member described ih =>
    obtain ⟨s, hs, hvalue⟩ := ih
    exact ⟨s, mem_flatten.mpr ⟨_, member, hs⟩, hvalue⟩

theorem exists_flatten_describes {schemas : List Schema} {s : Schema} {value : Json}
    (hs : s ∈ schemas) (h : Describes s value) : ∃ t ∈ flatten schemas, Describes t value := by
  obtain ⟨t, ht, hvalue⟩ := exists_alternative_describes h
  exact ⟨t, mem_flatten.mpr ⟨s, hs, ht⟩, hvalue⟩

/-- A value that one of several objects describes is described by the merged one, if that is so for
the properties. -/
theorem describes_mergedObject {objects : List Shape} {object : Shape} {isOpen : Bool}
    {entries : Entries Json} (hobject : object ∈ objects)
    (h : Describes (.object object.properties object.required isOpen) (.obj entries))
    (hmerge : ∀ name child value, child ∈ declared objects name → Describes child value →
      Describes (merge (declared objects name)) value) :
    Describes (mergedObject objects) (.obj entries) := by
  cases h with
  | object present hdeclared each =>
    refine .object ?_ ?_ ?_
    · -- A name that all objects require is required by this one.
      intro name hname
      have hall := (List.mem_filter.mp hname).2
      rw [List.all_eq_true] at hall
      have hrequired := hall object hobject
      exact present name (by simpa using hrequired)
    · -- A key that this object declares is declared by the merged one.
      intro name hname
      have hmem : name ∈ object.properties.keys := Entries.has_iff.mp (hdeclared name hname)
      have hnames : name ∈ propertyNames objects := mem_propertyNames.mpr ⟨object, hobject, hmem⟩
      rw [Entries.has, Entries.find?_map_names, if_pos hnames]
      rfl
    · intro name child value hchild hvalue
      rw [Entries.find?_map_names] at hchild
      split at hchild
      next hnames =>
        -- This object declares the key too, and what it declares was merged with the others.
        cases hchild
        have hhas : entries.has name = true := by rw [Entries.has, hvalue]; rfl
        obtain ⟨own, hown⟩ := Entries.exists_find?_of_mem_keys
          (Entries.has_iff.mp (hdeclared name hhas))
        exact hmerge name own value (mem_declared.mpr ⟨object, hobject, hown⟩)
          (each name own value hown hvalue)
      next => cases hchild

/-- A value that one of several arrays describes is described by the merged one, if that is so for
the items. -/
theorem describes_mergedArray {schemas : List Schema} {s : Schema} {value : Json}
    (hs : s ∈ schemas) (hkind : s.kind = .array) (h : Describes s value)
    (hmerge : ∀ items value, items ∈ itemSchemas schemas → Describes items value →
      Describes (merge (itemSchemas schemas)) value) :
    Describes (.array (some (merge (itemSchemas schemas)))) value := by
  cases h with
  | emptyArray items => exact .emptyArray _
  | array each =>
    exact .array fun value hvalue => hmerge _ value (mem_itemSchemas.mpr hs) (each value hvalue)
  | any value => cases hkind
  | primitive typed => cases hkind
  | object present declared each => cases hkind
  | union member described => cases hkind

/-- A value that one of several known or unknown schemas describes is described by one that stands
in their union. -/
theorem exists_known_describes {schemas : List Schema} {s : Schema} {value : Json}
    (hs : s ∈ schemas) (hkind : s.kind ≠ .unknown) (h : Describes s value) :
    ∃ t ∈ distinctKnown [] schemas, Describes t value := by
  cases s with
  | primitive type =>
    -- Another primitive may have the place, but the two describe the same values.
    obtain ⟨other, hother, hslot⟩ := exists_slot_mem_distinctKnown hs List.not_mem_nil
    cases h with
    | primitive typed => exact ⟨_, hother, .primitive (hslot ▸ typed)⟩
  | object properties required isOpen =>
    exact ⟨_, mem_distinctKnown_of_structured (.inl rfl) hs [], h⟩
  | array items => exact ⟨_, mem_distinctKnown_of_structured (.inr rfl) hs [], h⟩
  | any => exact absurd rfl hkind
  | union members => exact absurd rfl hkind

/-- Schemas of several kinds become one that describes what they describe. -/
theorem describes_joined {schemas : List Schema} {joined s : Schema} {value : Json}
    (hj : Joined schemas joined) (hs : s ∈ schemas) (h : Describes s value) :
    Describes joined value := by
  cases hj with
  | only known t one =>
    -- The schema that describes the value is known, so it is the only one.
    obtain ⟨t', ht', hvalue⟩ := exists_known_describes hs (known s hs) h
    rw [one, List.mem_singleton] at ht'
    exact ht' ▸ hvalue
  | known known several =>
    obtain ⟨t, ht, hvalue⟩ := exists_known_describes hs (known s hs) h
    exact .union ht hvalue
  | unknown some =>
    exact .union (List.mem_append_right _ (List.mem_singleton_self Schema.any)) (.any value)

/-- Merging keeps the values that the schemas describe. -/
theorem describes_merge {schemas : List Schema} {s : Schema} {value : Json} (hs : s ∈ schemas)
    (h : Describes s value) : Describes (merge schemas) value := by
  induction schemas using parts_induction generalizing s value with
  | nil => cases hs
  | single schema =>
    rw [List.mem_singleton] at hs
    rw [merge, ← hs]
    exact h
  | several first second rest hdeclared hitems =>
    obtain ⟨t, ht, hvalue⟩ := exists_flatten_describes hs h
    -- One of the flattened schemas describes the value; each way of merging keeps it.
    have hmerged := merged_flatten first second rest
    generalize merge (first :: second :: rest) = merged at hmerged
    cases hmerged with
    | unknown all => exact .any value
    | primitive type some all =>
      rw [all t ht] at hvalue
      exact hvalue
    | object all =>
      have hkind := all t ht
      cases hvalue with
      | @object properties required isOpen entries present declared each =>
        have hshape : ⟨properties, required⟩ ∈ shapes (flatten (first :: second :: rest)) :=
          mem_shapes.mpr ⟨isOpen, ht⟩
        have hdescribes : Describes (.object properties required isOpen) (.obj entries) :=
          .object present declared each
        exact describes_mergedObject hshape hdescribes
          fun name child value hchild hvalue => hdeclared name hchild hvalue
      | any value => cases hkind
      | primitive typed => cases hkind
      | emptyArray items => cases hkind
      | array each => cases hkind
      | union member described => cases hkind
    | array all =>
      exact describes_mergedArray ht (all t ht) hvalue
        fun items value hmem hvalue => hitems hmem hvalue
    | union several => exact describes_joined (joined_unionOf several) ht hvalue

/-! ## Inference -/

/-- The schema of a sample describes it. -/
theorem describes_infer (strict : Bool) (sample : Json) :
    Describes (infer strict sample) sample := by
  induction sample using Json.children_induction with
  | step sample ih =>
    cases sample with
    | null => exact .primitive rfl
    | bool b => exact .primitive rfl
    | num n => exact .primitive rfl
    | str s => exact .primitive rfl
    | arr items =>
      rw [infer, inferAll_eq_map]
      -- Each element is described by its own schema, and so by the merged one.
      refine .array fun item hitem => ?_
      exact describes_merge (List.mem_map.mpr ⟨item, hitem, rfl⟩) (ih item hitem)
    | obj entries =>
      rw [infer]
      have hkeys := keys_inferProperties strict entries
      refine .object ?_ ?_ ?_
      · intro name hname
        rw [Entries.has_iff, ← hkeys]
        cases strict with
        | true => exact hname
        | false => cases hname
      · intro name hname
        rwa [Entries.has_iff, hkeys, ← Entries.has_iff]
      · intro name child value hchild hvalue
        rw [find?_inferProperties, hvalue] at hchild
        cases hchild
        exact ih value (Json.mem_children_of_find? hvalue)

theorem mergeStable_ne_integer : MergeStable fun s => s ≠ .primitive .integer where
  any := by simp
  object objects := by simp [mergedObject]
  array items := by simp
  union schemas alternatives _ _ _ := by simp

theorem integerFree_infer (strict : Bool) (sample : Json) : (infer strict sample).IntegerFree :=
  everywhere_infer_of_forall strict mergeStable_ne_integer (fun type h => by simpa using h)
    (fun entries => by simp [infer]) sample

/-- **Sample soundness**: every one of some samples is accepted by the schema that the schemas of
the samples are merged into, whether or not properties are taken as required. -/
theorem accepts_merge_infer (strict : Bool) (samples : List Json) (sample : Json)
    (h : sample ∈ samples) : Accepts (merge (samples.map (infer strict))) sample := by
  have hdescribes : Describes (merge (samples.map (infer strict))) sample :=
    describes_merge (List.mem_map.mpr ⟨sample, h, rfl⟩) (describes_infer strict sample)
  have hfree : (merge (samples.map (infer strict))).IntegerFree := by
    refine everywhere_merge mergeStable_ne_integer fun s hs => ?_
    obtain ⟨other, -, rfl⟩ := List.mem_map.mp hs
    exact integerFree_infer strict other
  exact accepts_of_describes hfree hdescribes

/-- Two objects, one of which lacks a key of the other, with elements of several kinds below. -/
theorem accepts_merge_infer_objects :
    Json.obj [("a", .arr [.num (.integer 1), .str "x", .obj []])] ∈
      [Json.obj [("a", .arr [.num (.integer 1), .str "x", .obj []])],
        Json.obj [("a", .arr []), ("b", .null)]] ∧
    Accepts (merge ([Json.obj [("a", .arr [.num (.integer 1), .str "x", .obj []])],
        Json.obj [("a", .arr []), ("b", .null)]].map (infer true)))
      (.obj [("a", .arr [.num (.integer 1), .str "x", .obj []])]) :=
  ⟨List.mem_cons_self .., accepts_merge_infer true _ _ (List.mem_cons_self ..)⟩

end ApiToolkit.Schema
