import ApiToolkit.Proofs.Json.Parts
import ApiToolkit.Proofs.Schema.Acceptance
import ApiToolkit.Proofs.Schema.Merging
/-!
# Merging widens

A merged schema accepts what one of the schemas accepts, but for three rules of merging: integers
and numbers have one place in a union, objects that declare something are closed, and arrays without
an item schema do not count beside others.  `Schema.Keeps` says that these rules take nothing from a
value.

## What is inside

- `Schema.exists_flatten_accepts`: a union accepts what its alternatives accept.
- `Schema.Keeps`: merging takes nothing from a value.
- `Schema.accepts_merge_of_keeps`: the merged schema accepts such a value.
- `Schema.Plain`, `Schema.keeps_of_plain`: schemas that the three rules do not touch.
- `Schema.accepts_merge`: merging widens.
- `Schema.merge_narrows`: each of the three rules takes a value away.
-/

namespace ApiToolkit.Schema

/-! ## Alternatives -/

theorem exists_alternative_accepts {schema : Schema} {value : Json} (h : Accepts schema value) :
    ∃ s ∈ schema.alternatives, Accepts s value := by
  induction h with
  | any value => exact ⟨_, List.mem_singleton_self _, .any value⟩
  | primitive typed => exact ⟨_, List.mem_singleton_self _, .primitive typed⟩
  | object present each others =>
    exact ⟨_, List.mem_singleton_self _, .object present each others⟩
  | array each => exact ⟨_, List.mem_singleton_self _, .array each⟩
  | union member accepted ih =>
    obtain ⟨s, hs, hvalue⟩ := ih
    exact ⟨s, mem_flatten.mpr ⟨_, member, hs⟩, hvalue⟩

theorem exists_flatten_accepts {schemas : List Schema} {s : Schema} {value : Json}
    (hs : s ∈ schemas) (h : Accepts s value) : ∃ t ∈ flatten schemas, Accepts t value := by
  obtain ⟨t, ht, hvalue⟩ := exists_alternative_accepts h
  exact ⟨t, mem_flatten.mpr ⟨s, hs, ht⟩, hvalue⟩

/-! ## What merging keeps -/

/-- What objects declare accepts an item under one of their names, unless they declare nothing at
all. -/
def DeclaredAccepts (objects : List Shape) (name : String) (item : Json) : Prop :=
  propertyNames objects = [] ∨ ∃ child ∈ declared objects name, Accepts child item

/-- One of several item schemas accepts an item, unless there are none. -/
def ItemAccepts (schemas : List Schema) (item : Json) : Prop :=
  schemas = [] ∨ ∃ child ∈ schemas, Accepts child item

/-- Merging takes nothing from a value: neither where the schemas of a list are merged, nor below,
where their properties and items are. -/
inductive Keeps : List Schema → Json → Prop where
  /-- A single schema is kept as it is. -/
  | few {schemas : List Schema} {value : Json} (short : schemas.length ≤ 1) : Keeps schemas value
  | several {schemas : List Schema} {value : Json}
      -- The first of the integers and numbers of a list stands for all of them.
      (number : .any ∉ flatten schemas → Primitive.number.accepts value = true →
        ∀ type, holder? .number (flatten schemas) = some type → type.accepts value = true)
      -- Merged objects are closed, unless they declare nothing.
      (key : (∀ s ∈ flatten schemas, s.kind = .object) → ∀ entries, value = .obj entries →
        ∀ name item, Entries.find? entries name = some item →
          DeclaredAccepts (shapes (flatten schemas)) name item)
      (keys : (∀ s ∈ flatten schemas, s.kind = .object) → ∀ entries, value = .obj entries →
        ∀ name item, Entries.find? entries name = some item →
          Keeps (declared (shapes (flatten schemas)) name) item)
      -- Merged arrays have an item schema as soon as one of them has.
      (element : (∀ s ∈ flatten schemas, s.kind = .array) → ∀ items, value = .arr items →
        ∀ item ∈ items, ItemAccepts (itemSchemas (flatten schemas)) item)
      (elements : (∀ s ∈ flatten schemas, s.kind = .array) → ∀ items, value = .arr items →
        ∀ item ∈ items, Keeps (itemSchemas (flatten schemas)) item) :
      Keeps schemas value

/-- Primitives with one place accept the same values, but for numbers that are no integers. -/
theorem accepts_of_slot {type other : Primitive} {value : Json} (hslot : slot other = slot type)
    (h : type.accepts value = true)
    (hnumber : Primitive.number.accepts value = true → slot type = .number →
      other.accepts value = true) : other.accepts value = true := by
  by_cases hnumeric : slot type = .number
  · refine hnumber ?_ hnumeric
    cases type <;> cases value <;> simp_all [slot, Primitive.accepts]
  · have heq : other = type := by
      cases type <;> cases other <;> simp_all [slot]
    exact heq ▸ h

/-- A value that one of the schemas accepts is accepted by one that stands in their union. -/
theorem exists_known_accepts {schemas : List Schema} {s : Schema} {value : Json}
    (hs : s ∈ schemas) (hkind : s.kind ≠ .unknown) (h : Accepts s value)
    (hnumber : Primitive.number.accepts value = true →
      ∀ type, holder? .number schemas = some type → type.accepts value = true) :
    ∃ t ∈ distinctKnown [] schemas, Accepts t value := by
  cases s with
  | primitive type =>
    obtain ⟨other, hother⟩ := exists_holder? hs
    refine ⟨_, mem_distinctKnown_of_holder? hother List.not_mem_nil, .primitive ?_⟩
    cases h with
    | primitive typed =>
      refine accepts_of_slot (slot_of_holder? hother) typed fun hvalue hslot => ?_
      exact hnumber hvalue other (hslot ▸ hother)
  | object properties required isOpen =>
    exact ⟨_, mem_distinctKnown_of_structured (.inl rfl) hs [], h⟩
  | array items => exact ⟨_, mem_distinctKnown_of_structured (.inr rfl) hs [], h⟩
  | any => exact absurd rfl hkind
  | union members => exact absurd rfl hkind

/-- Schemas of several kinds become one that accepts what they accept. -/
theorem accepts_joined {schemas : List Schema} {joined s : Schema} {value : Json}
    (hj : Joined schemas joined) (hs : s ∈ schemas) (h : Accepts s value)
    (hnumber : .any ∉ schemas → Primitive.number.accepts value = true →
      ∀ type, holder? .number schemas = some type → type.accepts value = true) :
    Accepts joined value := by
  have hany : (∀ s ∈ schemas, s.kind ≠ .unknown) → .any ∉ schemas := fun known hmem =>
    known _ hmem rfl
  cases hj with
  | only known t one =>
    obtain ⟨t', ht', hvalue⟩ := exists_known_accepts hs (known s hs) h (hnumber (hany known))
    rw [one, List.mem_singleton] at ht'
    exact ht' ▸ hvalue
  | known known several =>
    obtain ⟨t, ht, hvalue⟩ := exists_known_accepts hs (known s hs) h (hnumber (hany known))
    exact .union ht hvalue
  | unknown some =>
    -- The unknown at the end accepts everything.
    exact .union (List.mem_append_right _ (List.mem_singleton_self Schema.any)) (.any value)

/-- An object that one of several objects accepts is accepted by the merged one, if that is so for
the items under its keys. -/
theorem accepts_mergedObject {objects : List Shape} {object : Shape} {isOpen : Bool}
    {entries : Entries Json} (hobject : object ∈ objects)
    (h : Accepts (.object object.properties object.required isOpen) (.obj entries))
    (hkey : ∀ name item, entries.find? name = some item → DeclaredAccepts objects name item)
    (hmerge : ∀ name item child, entries.find? name = some item → child ∈ declared objects name →
      Accepts child item → Accepts (merge (declared objects name)) item) :
    Accepts (mergedObject objects) (.obj entries) := by
  cases h with
  | object present each others =>
    refine .object ?_ ?_ ?_
    · -- A name that all objects require is required by this one.
      intro name hname
      have hall := List.all_eq_true.mp (List.mem_filter.mp hname).2 object hobject
      exact present name (by simpa using hall)
    · intro name child item hchild hitem
      rw [Entries.find?_map_names] at hchild
      split at hchild
      next hnames =>
        cases hchild
        rcases hkey name item hitem with hnone | ⟨own, hown, hvalue⟩
        · rw [hnone] at hnames
          cases hnames
        · exact hmerge name item own hitem hown hvalue
      next => cases hchild
    · intro hclosed name hname
      obtain ⟨item, hitem⟩ := Option.isSome_iff_exists.mp hname
      rcases hkey name item hitem with hnone | ⟨own, hown, -⟩
      · -- Nothing is declared, so the merged object is open.
        rw [hnone] at hclosed
        cases hclosed
      · obtain ⟨other, hother, hfind⟩ := mem_declared.mp hown
        have hkeys : name ∈ other.properties.keys :=
          Entries.isSome_find?_iff.mp (hfind ▸ rfl)
        have hnames : name ∈ propertyNames objects :=
          mem_propertyNames.mpr ⟨other, hother, hkeys⟩
        rw [Entries.has, Entries.find?_map_names, if_pos hnames]
        rfl

/-- The schema that several schemas are merged into accepts what one of them accepts and merging
keeps. -/
theorem accepts_merge_of_keeps {schemas : List Schema} {s : Schema} {value : Json}
    (hkeeps : Keeps schemas value) (hs : s ∈ schemas) (h : Accepts s value) :
    Accepts (merge schemas) value := by
  induction hkeeps generalizing s with
  | @few schemas value short =>
    match schemas, short with
    | [only], _ =>
      rw [merge, ← List.mem_singleton.mp hs]
      exact h
  | @several schemas value number key _ element _ ihKeys ihElements =>
    rcases schemas with _ | ⟨first, _ | ⟨second, rest⟩⟩
    · cases hs
    · rw [merge, ← List.mem_singleton.mp hs]
      exact h
    obtain ⟨t, ht, hvalue⟩ := exists_flatten_accepts hs h
    -- One of the flattened schemas accepts the value; each way of merging keeps it.
    have hmerged := merged_flatten first second rest
    generalize merge (first :: second :: rest) = merged at hmerged
    cases hmerged with
    | unknown all => exact .any value
    | primitive type some all =>
      rw [all t ht] at hvalue
      exact hvalue
    | object all =>
      have hkind := all t ht
      cases hvalue with
      | @object properties required isOpen entries present each others =>
        have hshape : ⟨properties, required⟩ ∈ shapes (flatten (first :: second :: rest)) :=
          mem_shapes.mpr ⟨isOpen, ht⟩
        refine accepts_mergedObject hshape (.object present each others) (key all entries rfl) ?_
        exact fun name item child hitem hchild haccepts =>
          ihKeys all entries rfl name item hitem hchild haccepts
      | any value => cases hkind
      | primitive typed => cases hkind
      | array each => cases hkind
      | union member accepted => cases hkind
    | array all =>
      have hkind := all t ht
      cases hvalue with
      | @array items values each =>
        refine .array fun child hchild item hitem => ?_
        cases hchild
        rcases element all values rfl item hitem with hnone | ⟨own, hown, haccepts⟩
        · rw [hnone, merge]
          exact .any item
        · exact ihElements all values rfl item hitem hown haccepts
      | any value => cases hkind
      | primitive typed => cases hkind
      | object present each others => cases hkind
      | union member accepted => cases hkind
    | union several => exact accepts_joined (joined_unionOf several) ht hvalue number

/-! ## Schemas that keep everything -/

/-- No integers, no open objects and no arrays without an item schema. -/
def PlainNode : Schema → Prop
  | .primitive type => type ≠ .integer
  | .object _ _ isOpen => isOpen = false
  | .array items => items ≠ none
  | _ => True

/-- A schema without integers, open objects and arrays without an item schema, at every depth. -/
def Plain (schema : Schema) : Prop := Everywhere PlainNode schema

/-- A closed object declares what accepts the items of a value. -/
theorem exists_declared_accepts {schemas : List Schema} {t : Schema} {entries : Entries Json}
    (ht : t ∈ schemas) (hplain : Plain t) (hkind : t.kind = .object)
    (h : Accepts t (.obj entries)) {name : String} {item : Json}
    (hitem : entries.find? name = some item) :
    ∃ child ∈ declared (shapes schemas) name, Accepts child item := by
  cases h with
  | @object properties required isOpen entries present each others =>
    have hclosed : isOpen = false := hplain.here
    have hhas : properties.has name = true := others hclosed name (by rw [Entries.has, hitem]; rfl)
    obtain ⟨child, hchild⟩ := Option.isSome_iff_exists.mp hhas
    have hshape : ⟨properties, required⟩ ∈ shapes schemas := mem_shapes.mpr ⟨isOpen, ht⟩
    exact ⟨child, mem_declared.mpr ⟨_, hshape, hchild⟩, each name child item hchild hitem⟩
  | any value => cases hkind
  | primitive typed => cases hkind
  | union member accepted => cases hkind

theorem exists_item_accepts {schemas : List Schema} {t : Schema} {items : List Json}
    (ht : t ∈ schemas) (hplain : Plain t) (hkind : t.kind = .array)
    (h : Accepts t (.arr items)) {item : Json} (hitem : item ∈ items) :
    ∃ child ∈ itemSchemas schemas, Accepts child item := by
  cases h with
  | @array known values each =>
    have hknown : known ≠ none := hplain.here
    obtain ⟨child, rfl⟩ := Option.ne_none_iff_exists'.mp hknown
    exact ⟨child, mem_itemSchemas.mpr ht, each child rfl item hitem⟩
  | any value => cases hkind
  | primitive typed => cases hkind
  | union member accepted => cases hkind

/-- Merging takes nothing from a value that a plain schema of a list of plain ones accepts. -/
theorem keeps_of_plain {schemas : List Schema} (hplain : ∀ schema ∈ schemas, Plain schema)
    {s : Schema} {value : Json} (hs : s ∈ schemas) (h : Accepts s value) : Keeps schemas value := by
  induction value using Json.children_induction generalizing schemas s with
  | step value ih =>
    obtain ⟨t, ht, hvalue⟩ := exists_flatten_accepts hs h
    have hflat : ∀ t ∈ flatten schemas, Plain t := fun t ht => everywhere_of_mem_flatten hplain ht
    refine .several ?_ ?_ ?_ ?_ ?_
    · -- The place of the numbers is not taken by an integer.
      intro _ hnumber type htype
      have hmem : .primitive type ∈ flatten schemas :=
        (distinctKnown_sublist [] _).subset (mem_distinctKnown_of_holder? htype List.not_mem_nil)
      have hplain : type ≠ .integer := (hflat _ hmem).here
      have hslot := slot_of_holder? htype
      cases type with
      | number => exact hnumber
      | integer => exact absurd rfl hplain
      | string => cases hslot
      | boolean => cases hslot
      | null => cases hslot
    · rintro all entries rfl name item hitem
      exact .inr (exists_declared_accepts ht (hflat t ht) (all t ht) hvalue hitem)
    · rintro all entries rfl name item hitem
      obtain ⟨child, hchild, haccepts⟩ :=
        exists_declared_accepts ht (hflat t ht) (all t ht) hvalue hitem
      exact ih item (Json.mem_children_of_find? hitem) (everywhere_declared hflat name) hchild
        haccepts
    · rintro all items rfl item hitem
      exact .inr (exists_item_accepts ht (hflat t ht) (all t ht) hvalue hitem)
    · rintro all items rfl item hitem
      obtain ⟨child, hchild, haccepts⟩ :=
        exists_item_accepts ht (hflat t ht) (all t ht) hvalue hitem
      exact ih item hitem (everywhere_itemSchemas hflat) hchild haccepts

/-! ## Merging -/

/-- **Widening**: the schema that several schemas are merged into accepts every value that one of
them accepts, if merging takes nothing from the value; and it takes nothing at all where there are
no integers, no open objects and no arrays without an item schema. -/
theorem accepts_merge {schemas : List Schema} {s : Schema} {value : Json} (hs : s ∈ schemas)
    (h : Accepts s value) :
    (Keeps schemas value → Accepts (merge schemas) value) ∧
    ((∀ schema ∈ schemas, Plain schema) → Accepts (merge schemas) value) :=
  ⟨fun hkeeps => accepts_merge_of_keeps hkeeps hs h,
    fun hplain => accepts_merge_of_keeps (keeps_of_plain hplain hs h) hs h⟩

/-- An array of texts. -/
def textArray : Schema := .array (some (.primitive .string))

/-- A closed object, and an open one with a wider property and one more. -/
def mixedObjects : List Schema :=
  [.object [("a", .primitive .integer)] ["a"] false,
    .object [("a", .primitive .number), ("b", textArray)] ["a"] true]

/-- A value that the open object accepts. -/
def mixedEntries : Entries Json := [("a", .num (.integer 2)), ("b", .arr [.str "x"])]

theorem accepts_textArray : Accepts textArray (.arr [.str "x"]) := by
  refine .array fun child heq item hitem => ?_
  cases heq
  rw [List.mem_singleton] at hitem
  exact hitem ▸ .primitive rfl

theorem accepts_mixedEntries :
    Accepts (.object [("a", .primitive .number), ("b", textArray)] ["a"] true)
      (.obj mixedEntries) := by
  refine .object (by decide) (fun name child item hchild hitem => ?_)
    (fun hclosed => nomatch hclosed)
  rcases List.mem_cons.mp (Entries.mem_of_find? hchild) with heq | hmem
  · cases heq
    cases hitem
    exact .primitive rfl
  · rw [List.mem_singleton] at hmem
    cases hmem
    cases hitem
    exact accepts_textArray

theorem keeps_mixedEntries : Keeps mixedObjects (.obj mixedEntries) := by
  have hfind : ∀ name item, Entries.find? mixedEntries name = some item →
      (name = "a" ∧ item = .num (.integer 2)) ∨ (name = "b" ∧ item = .arr [.str "x"]) := by
    intro name item hitem
    simpa [mixedEntries] using Entries.mem_of_find? hitem
  refine .several (fun _ hnumber => nomatch hnumber) ?_ ?_ (fun _ _ heq => nomatch heq)
    (fun _ _ heq => nomatch heq)
  · rintro - entries heq name item hitem
    cases heq
    right
    rcases hfind name item hitem with ⟨rfl, rfl⟩ | ⟨rfl, rfl⟩
    · exact ⟨.primitive .number, List.mem_cons_of_mem _ (List.mem_cons_self ..), .primitive rfl⟩
    · exact ⟨textArray, List.mem_cons_self .., accepts_textArray⟩
  · rintro - entries heq name item hitem
    cases heq
    rcases hfind name item hitem with ⟨rfl, rfl⟩ | ⟨rfl, rfl⟩
    · -- The integer has the place of the number, and the item is an integer.
      refine .several (fun _ _ type htype => ?_) (fun _ _ heq => nomatch heq)
        (fun _ _ heq => nomatch heq) (fun _ _ heq => nomatch heq) (fun _ _ heq => nomatch heq)
      cases htype
      rfl
    · exact .few (by decide)

theorem plain_primitive {type : Primitive} (h : type ≠ .integer) : Plain (.primitive type) :=
  .node h fun _ hchild => nomatch hchild

theorem accepts_merge_samples :
    ((∃ s ∈ mixedObjects, Accepts s (.obj mixedEntries)) ∧
      Keeps mixedObjects (.obj mixedEntries) ∧ Accepts (merge mixedObjects) (.obj mixedEntries)) ∧
    ((∀ s ∈ [Schema.primitive .null, .primitive .number], Plain s) ∧
      Accepts (.primitive .number) (.num (.integer 1)) ∧
      Accepts (merge [.primitive .null, .primitive .number]) (.num (.integer 1))) := by
  have hmixed : .object [("a", .primitive .number), ("b", textArray)] ["a"] true ∈ mixedObjects :=
    List.mem_cons_of_mem _ (List.mem_cons_self ..)
  have hplain : ∀ s ∈ [Schema.primitive .null, .primitive .number], Plain s := by
    simp [plain_primitive]
  have hnumber : Accepts (.primitive .number) (.num (.integer 1)) := .primitive rfl
  refine ⟨⟨⟨_, hmixed, accepts_mixedEntries⟩, keeps_mixedEntries, ?_⟩, hplain, hnumber, ?_⟩
  · exact (accepts_merge hmixed accepts_mixedEntries).1 keeps_mixedEntries
  · exact (accepts_merge (by simp) hnumber).2 hplain

/-- One and a half. -/
def oneAndHalf : Json := .num (.float ⟨0x3FF8000000000000⟩)

/-- Each of the three rules takes a value away: a number where an integer has its place, an
undeclared key where an object declares something, and an element where an array has items. -/
theorem merge_narrows :
    (Accepts (.primitive .number) oneAndHalf ∧
      ¬ Accepts (merge [.primitive .integer, .primitive .number]) oneAndHalf) ∧
    (Accepts (.object [] [] true) (.obj [("b", .null)]) ∧
      ¬ Accepts (merge [.object [] [] true, .object [("a", .any)] [] false])
        (.obj [("b", .null)])) ∧
    (Accepts (.array none) (.arr [.null]) ∧
      ¬ Accepts (merge [.array none, .array (some (.primitive .string))]) (.arr [.null])) := by
  have hunion : merge [.primitive .integer, .primitive .number] = .primitive .integer := by
    rw [merge]
    rfl
  have hobject : merge [.object [] [] true, .object [("a", .any)] [] false] =
      .object [("a", .any)] [] false := by
    rw [merge]
    show Schema.object [("a", merge [.any])] [] false = _
    rw [merge]
  have harray : merge [.array none, .array (some (.primitive .string))] =
      .array (some (.primitive .string)) := by
    rw [merge]
    show Schema.array (some (merge [.primitive .string])) = _
    rw [merge]
  rw [hunion, hobject, harray]
  refine ⟨⟨.primitive rfl, ?_⟩, ⟨?_, ?_⟩, ⟨?_, ?_⟩⟩
  · intro h
    cases h with
    | primitive typed => exact absurd typed (by decide)
  · refine .object (by simp) (by simp) (by simp)
  · intro h
    cases h with
    | object present each others => exact absurd (others rfl "b" rfl) (by decide)
  · exact .array (by simp)
  · intro h
    cases h with
    | array each =>
      have hnull := each _ rfl .null (by simp)
      cases hnull with
      | primitive typed => cases typed

end ApiToolkit.Schema
