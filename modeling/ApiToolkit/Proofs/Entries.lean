import ApiToolkit.Entries
import Mathlib.Data.List.Induction
import Mathlib.Data.List.Nodup
/-!
# The theory of ordered entries

The operations on entries are described through two views: what is found under a name, and the
names in order.

## What is inside

- `List.eraseDups`: the first appearances, without repetition.
- `Entries.find?`: finding in a table that was put together from others.
- `Entries.eq_of_find?`: tables that look the same through both views are the same.
- `Entries.keys_overlay`, `Entries.find?_overlay`: writing one table over another.
- `Entries.overlay_assoc`, `Entries.nil_overlay`, `Entries.overlay_self`: the laws of doing so.
- `Entries.keys_collapse`, `Entries.find?_collapse`: the table without repeated names.
-/

namespace ApiToolkit

/-! ## First appearances -/

section FirstAppearances

variable {α : Type u} [BEq α] [LawfulBEq α]

theorem nodup_eraseDups (xs : List α) : xs.eraseDups.Nodup := by
  match xs with
  | [] => exact List.nodup_nil
  | x :: rest =>
    rw [List.eraseDups_cons, List.nodup_cons]
    refine ⟨?_, nodup_eraseDups _⟩
    intro hx
    have hmem := List.mem_eraseDups.mp hx
    simp at hmem
termination_by xs.length
decreasing_by
  have := List.length_filter_le (fun b => !b == x) rest
  simp only [List.length_cons]
  omega

/-- A list without repetition is the list of its first appearances. -/
theorem eraseDups_of_nodup {xs : List α} (h : xs.Nodup) : xs.eraseDups = xs := by
  induction xs with
  | nil => rfl
  | cons x rest ih =>
    obtain ⟨hx, hrest⟩ := List.nodup_cons.mp h
    have hkeep : rest.filter (fun b => !b == x) = rest := by
      rw [List.filter_eq_self]
      intro b hb
      have hne : b ≠ x := fun heq => hx (heq ▸ hb)
      simpa using hne
    rw [List.eraseDups_cons, hkeep, ih hrest]

/-- First appearances may be taken of a front part beforehand. -/
theorem eraseDups_eraseDups_append (xs ys : List α) :
    (xs.eraseDups ++ ys).eraseDups = (xs ++ ys).eraseDups := by
  have hremove : ys.removeAll xs.eraseDups = ys.removeAll xs := by
    unfold List.removeAll
    congr 1
    funext y
    simp [List.elem_eq_contains, List.mem_eraseDups]
  rw [List.eraseDups_append, List.eraseDups_append, hremove,
    eraseDups_of_nodup (nodup_eraseDups xs)]

/-- One more element is a first appearance if it was not there before. -/
theorem eraseDups_concat [DecidableEq α] (xs : List α) (x : α) :
    (xs ++ [x]).eraseDups = if x ∈ xs then xs.eraseDups else xs.eraseDups ++ [x] := by
  rw [List.eraseDups_append]
  by_cases hx : x ∈ xs
  · simp [List.removeAll, hx]
  · simp [List.removeAll, hx, List.eraseDups_cons]

/-- Repetitions at the end may be removed before. -/
theorem eraseDups_append_eraseDups [DecidableEq α] (xs ys : List α) :
    (xs ++ ys.eraseDups).eraseDups = (xs ++ ys).eraseDups := by
  induction ys using List.reverseRecOn with
  | nil => rfl
  | append_singleton ys y ih =>
    rw [eraseDups_concat, ← List.append_assoc, eraseDups_concat, ← ih]
    by_cases hy : y ∈ ys
    · rw [if_pos hy, if_pos (List.mem_append_right xs hy)]
    · rw [if_neg hy, ← List.append_assoc, eraseDups_concat]
      simp only [List.mem_append, List.mem_eraseDups]

theorem filter_eraseDups [DecidableEq α] (keep : α → Bool) (xs : List α) :
    xs.eraseDups.filter keep = (xs.filter keep).eraseDups := by
  induction xs using List.reverseRecOn with
  | nil => rfl
  | append_singleton xs x ih =>
    rw [eraseDups_concat, List.filter_append]
    by_cases hx : x ∈ xs
    · rw [if_pos hx, ih]
      cases hkeep : keep x with
      | false => simp [hkeep]
      | true =>
        have hmem : x ∈ xs.filter keep := List.mem_filter.mpr ⟨hx, hkeep⟩
        rw [List.filter_singleton, hkeep, cond_true, eraseDups_concat, if_pos hmem]
    · rw [if_neg hx, List.filter_append, ih]
      cases hkeep : keep x with
      | false => simp [hkeep]
      | true =>
        have hmem : x ∉ xs.filter keep := fun h => hx (List.mem_of_mem_filter h)
        rw [List.filter_singleton, hkeep, cond_true, eraseDups_concat, if_neg hmem]

/-- What was there before adds nothing. -/
theorem eraseDups_append_of_subset {xs ys : List α} (h : ys ⊆ xs) :
    (xs ++ ys).eraseDups = xs.eraseDups := by
  have hremove : ys.removeAll xs = [] := by
    unfold List.removeAll
    rw [List.filter_eq_nil_iff]
    intro y hy
    simp [h hy]
  rw [List.eraseDups_append, hremove, List.eraseDups_nil, List.append_nil]

/-- What was there before may also be left out in the middle. -/
theorem eraseDups_append_append_of_subset {xs ys : List α} (h : ys ⊆ xs) (zs : List α) :
    (xs ++ ys ++ zs).eraseDups = (xs ++ zs).eraseDups := by
  rw [← eraseDups_eraseDups_append, eraseDups_append_of_subset h, eraseDups_eraseDups_append]

/-- In another order the first appearances are the same. -/
theorem perm_eraseDups {xs ys : List α} (h : xs.Perm ys) : xs.eraseDups.Perm ys.eraseDups := by
  rw [List.perm_ext_iff_of_nodup (nodup_eraseDups xs) (nodup_eraseDups ys)]
  intro x
  rw [List.mem_eraseDups, List.mem_eraseDups, h.mem_iff]

/-- Only first appearances matter to the first appearances in what is made from them. -/
theorem eraseDups_flatMap_eraseDups {β : Type v} [BEq β] [LawfulBEq β] [DecidableEq α]
    (f : α → List β) (xs : List α) :
    (xs.eraseDups.flatMap f).eraseDups = (xs.flatMap f).eraseDups := by
  induction xs using List.reverseRecOn with
  | nil => rfl
  | append_singleton xs x ih =>
    rw [eraseDups_concat, List.flatMap_append, List.flatMap_singleton]
    by_cases hx : x ∈ xs
    · have hsubset : f x ⊆ xs.flatMap f := fun y hy => List.mem_flatMap.mpr ⟨x, hx, hy⟩
      rw [if_pos hx, ih, eraseDups_append_of_subset hsubset]
    · rw [if_neg hx, List.flatMap_append, List.flatMap_singleton,
        ← eraseDups_eraseDups_append, ih, eraseDups_eraseDups_append]

theorem eraseDups_map_eraseDups {β : Type v} [BEq β] [LawfulBEq β] [DecidableEq α] (f : α → β)
    (xs : List α) : (xs.eraseDups.map f).eraseDups = (xs.map f).eraseDups := by
  rw [List.map_eq_flatMap, List.map_eq_flatMap]
  exact eraseDups_flatMap_eraseDups _ xs

end FirstAppearances

section Images

variable {α : Type u} {β : Type v} [BEq β] [LawfulBEq β] [DecidableEq β]

theorem eraseDups_flatMap_congr {f g : α → List β} {xs : List α}
    (h : ∀ x ∈ xs, (f x).eraseDups = (g x).eraseDups) :
    (xs.flatMap f).eraseDups = (xs.flatMap g).eraseDups := by
  induction xs with
  | nil => rfl
  | cons x rest ih =>
    obtain ⟨hx, hrest⟩ := List.forall_mem_cons.mp h
    rw [List.flatMap_cons, List.flatMap_cons, ← eraseDups_eraseDups_append, hx,
      ← eraseDups_append_eraseDups, ih hrest, eraseDups_append_eraseDups,
      eraseDups_eraseDups_append]

/-- Where images agree, the first one is kept. -/
theorem exists_sublist_map_eq_eraseDups (f : α → β) (xs : List α) :
    ∃ kept : List α, kept.Sublist xs ∧ (xs.map f).eraseDups = kept.map f ∧
      ∀ x ∈ xs, ∃ y ∈ kept, f y = f x := by
  induction xs using List.reverseRecOn with
  | nil => exact ⟨[], List.Sublist.refl _, rfl, List.forall_mem_nil _⟩
  | append_singleton xs x ih =>
    obtain ⟨kept, hsublist, hkept, hfound⟩ := ih
    rw [List.map_append, List.map_singleton, eraseDups_concat, hkept]
    by_cases hx : f x ∈ xs.map f
    · obtain ⟨other, hother, heq⟩ := List.mem_map.mp hx
      obtain ⟨y, hy, hfy⟩ := hfound other hother
      refine ⟨kept, hsublist.trans (List.sublist_append_left _ _), if_pos hx, ?_⟩
      refine List.forall_mem_append.mpr ⟨hfound, List.forall_mem_singleton.mpr ⟨y, hy, ?_⟩⟩
      rw [hfy, heq]
    · refine ⟨kept ++ [x], hsublist.append_right [x], ?_, ?_⟩
      · rw [if_neg hx, List.map_append, List.map_singleton]
      · refine List.forall_mem_append.mpr ⟨fun other hother => ?_, ?_⟩
        · obtain ⟨y, hy, hfy⟩ := hfound other hother
          exact ⟨y, List.mem_append_left _ hy, hfy⟩
        · exact List.forall_mem_singleton.mpr ⟨x, by simp, rfl⟩

end Images

namespace Entries

variable {α : Type u} {β : Type v}

/-! ## Finding -/

@[simp] theorem find?_nil (name : String) : find? ([] : Entries α) name = none := rfl

@[simp] theorem keys_nil : keys ([] : Entries α) = [] := rfl

theorem find?_cons (key : String) (value : α) (rest : Entries α) (name : String) :
    find? ((key, value) :: rest) name = if key = name then some value else find? rest name := rfl

@[simp] theorem keys_cons (key : String) (value : α) (rest : Entries α) :
    keys ((key, value) :: rest) = key :: keys rest := rfl

/-- A value is found under the names of entries and under no others. -/
theorem isSome_find?_iff {entries : Entries α} {name : String} :
    (entries.find? name).isSome = true ↔ name ∈ entries.keys := by
  induction entries with
  | nil => simp
  | cons entry rest ih =>
    obtain ⟨key, value⟩ := entry
    rw [find?_cons, keys_cons, List.mem_cons]
    by_cases hkey : key = name
    · simp [hkey]
    · simp [hkey, ih, Ne.symm hkey]

theorem has_iff {entries : Entries α} {name : String} :
    entries.has name = true ↔ name ∈ entries.keys := isSome_find?_iff

theorem has_eq_false_iff {entries : Entries α} {name : String} :
    entries.has name = false ↔ entries.find? name = none := by
  rw [has, Option.isSome_eq_false_iff, Option.isNone_iff_eq_none]

theorem find?_eq_none_iff {entries : Entries α} {name : String} :
    entries.find? name = none ↔ name ∉ entries.keys := by
  rw [← isSome_find?_iff]
  simp

theorem exists_find?_of_mem_keys {entries : Entries α} {name : String}
    (h : name ∈ entries.keys) : ∃ value, entries.find? name = some value :=
  Option.isSome_iff_exists.mp (isSome_find?_iff.mpr h)

theorem find?_append (first second : Entries α) (name : String) :
    find? (first ++ second) name = (first.find? name).or (second.find? name) := by
  induction first with
  | nil => simp
  | cons entry rest ih =>
    obtain ⟨key, value⟩ := entry
    rw [List.cons_append, find?_cons, find?_cons, ih]
    by_cases hkey : key = name <;> simp [hkey]

/-- A table that holds a value for each of some names. -/
theorem find?_map_names (names : List String) (f : String → α) (name : String) :
    find? (names.map fun n => (n, f n)) name = if name ∈ names then some (f name) else none := by
  induction names with
  | nil => simp
  | cons n rest ih =>
    rw [List.map_cons, find?_cons, ih]
    by_cases hn : n = name
    · simp [hn]
    · simp [hn, Ne.symm hn]

/-- A table that holds a value for some of the names. -/
theorem find?_filterMap_names (names : List String) (f : String → Option α) (name : String) :
    find? (names.filterMap fun n => (f n).map fun value => (n, value)) name =
      if name ∈ names then f name else none := by
  induction names with
  | nil => simp
  | cons n rest ih =>
    rw [List.filterMap_cons]
    by_cases hn : n = name
    · subst hn
      cases hf : f n with
      | none => simpa [hf] using ih
      | some value => simp [find?_cons]
    · cases hf : f n with
      | none => simpa [Ne.symm hn] using ih
      | some value => simpa [find?_cons, hn, Ne.symm hn] using ih

/-- Only the entries of some names are kept. -/
theorem find?_filter_names (keep : String → Bool) (entries : Entries α) (name : String) :
    find? (entries.filter fun entry => keep entry.1) name =
      if keep name then entries.find? name else none := by
  induction entries with
  | nil => simp
  | cons entry rest ih =>
    obtain ⟨key, value⟩ := entry
    rw [List.filter_cons, find?_cons]
    by_cases hkey : key = name
    · subst hkey
      cases hkeep : keep key <;> simp_all [find?_cons]
    · cases hkeep : keep key <;> simp_all [find?_cons]

/-- Changing the values changes what is found. -/
theorem find?_map_values (f : α → β) (entries : Entries α) (name : String) :
    find? (entries.map fun entry => (entry.1, f entry.2)) name = (entries.find? name).map f := by
  induction entries with
  | nil => rfl
  | cons entry rest ih =>
    obtain ⟨key, value⟩ := entry
    rw [List.map_cons, find?_cons, find?_cons, ih]
    by_cases hkey : key = name <;> simp [hkey]

/-- Without repeated names, every entry is found. -/
theorem find?_of_mem {entries : Entries α} (hnodup : entries.keys.Nodup) {name : String} {value : α}
    (h : (name, value) ∈ entries) : entries.find? name = some value := by
  induction entries with
  | nil => cases h
  | cons entry rest ih =>
    obtain ⟨key, old⟩ := entry
    obtain ⟨hkey, hrest⟩ := List.nodup_cons.mp hnodup
    rw [find?_cons]
    rcases List.mem_cons.mp h with heq | hmem
    · cases heq
      rw [if_pos rfl]
    · have hname : name ∈ keys rest := List.mem_map.mpr ⟨(name, value), hmem, rfl⟩
      have hne : key ≠ name := fun heq => hkey (heq ▸ hname)
      rw [if_neg hne]
      exact ih hrest hmem

/-- Without repeated names, the order does not matter. -/
theorem find?_of_perm {entries others : Entries α} (hperm : others.Perm entries)
    (h : entries.keys.Nodup) (name : String) : others.find? name = entries.find? name := by
  have hothers : others.keys.Nodup := (hperm.map _).nodup_iff.mpr h
  cases hfind : others.find? name with
  | some value => exact (find?_of_mem h (hperm.subset (mem_of_find? hfind))).symm
  | none =>
    have hname : name ∉ entries.keys := fun hmem =>
      find?_eq_none_iff.mp hfind ((hperm.map _).symm.subset hmem)
    exact (find?_eq_none_iff.mpr hname).symm

theorem find?_reverse {entries : Entries α} (h : entries.keys.Nodup) (name : String) :
    find? entries.reverse name = entries.find? name :=
  find?_of_perm entries.reverse_perm h name

/-- Tables with the same names in the same order, and the same values under them, are the same. -/
theorem eq_of_find? {entries others : Entries α} (h : entries.keys.Nodup)
    (hkeys : entries.keys = others.keys)
    (hfind : ∀ name, entries.find? name = others.find? name) : entries = others := by
  induction entries generalizing others with
  | nil => exact (List.map_eq_nil_iff.mp hkeys.symm).symm
  | cons entry rest ih =>
    obtain ⟨key, value⟩ := entry
    cases others with
    | nil => cases hkeys
    | cons other more =>
      obtain ⟨otherKey, otherValue⟩ := other
      obtain ⟨hkey, hnodup⟩ := List.nodup_cons.mp h
      obtain ⟨rfl, hmore⟩ : key = otherKey ∧ keys rest = keys more := List.cons.inj hkeys
      have hvalue : value = otherValue := by simpa [find?_cons] using hfind key
      have hrest : rest = more := by
        refine ih hnodup hmore fun name => ?_
        by_cases hname : key = name
        · -- The first name does not come again in either table.
          subst hname
          have hother : key ∉ keys more := by rwa [← hmore]
          rw [find?_eq_none_iff.mpr hkey, find?_eq_none_iff.mpr hother]
        · simpa [find?_cons, hname] using hfind name
      rw [hvalue, hrest]

/-! ## Writing one value -/

theorem find?_put (entries : Entries α) (name other : String) (value : α) :
    (entries.put name value).find? other =
      if other = name then some value else entries.find? other := by
  by_cases h : other = name
  · rw [h, find?_put_self, if_pos rfl]
  · rw [find?_put_of_ne entries value h, if_neg h]

/-- Writing keeps the names, and appends one that is new. -/
theorem keys_put (entries : Entries α) (name : String) (value : α) :
    (entries.put name value).keys =
      if name ∈ entries.keys then entries.keys else entries.keys ++ [name] := by
  induction entries with
  | nil => simp [put]
  | cons entry rest ih =>
    obtain ⟨key, old⟩ := entry
    by_cases hkey : key = name
    · simp [put, hkey]
    · have hne : ¬ name = key := fun h => hkey h.symm
      simp only [put, hkey, if_false, keys_cons, ih, List.mem_cons, hne, false_or]
      split <;> simp

/-- Writing under a known name replaces the value in place. -/
theorem put_of_mem {entries : Entries α} (hnodup : entries.keys.Nodup) {name : String}
    (h : name ∈ entries.keys) (value : α) :
    entries.put name value =
      entries.map fun entry => if entry.1 = name then (name, value) else entry := by
  induction entries with
  | nil => cases h
  | cons entry rest ih =>
    obtain ⟨key, old⟩ := entry
    obtain ⟨hkey, hrest⟩ := List.nodup_cons.mp hnodup
    rw [put, List.map_cons]
    by_cases heq : key = name
    · -- The name does not come again, so the rest stays as it is.
      subst heq
      have hkeep : ∀ entry ∈ rest, (if entry.1 = key then (key, value) else entry) = entry := by
        intro entry hentry
        have hne : entry.1 ≠ key := fun heq => hkey (List.mem_map.mpr ⟨entry, hentry, heq⟩)
        exact if_neg hne
      rw [if_pos rfl, if_pos rfl, List.map_congr_left hkeep, List.map_id']
    · have hmem : name ∈ keys rest := (List.mem_cons.mp h).resolve_left (Ne.symm heq)
      rw [if_neg heq, if_neg heq, ih hrest hmem]

theorem mem_of_mem_put {entries : Entries α} {name : String} {value : α} {entry : String × α}
    (h : entry ∈ entries.put name value) : entry = (name, value) ∨ entry ∈ entries := by
  induction entries with
  | nil => simpa [put] using h
  | cons first rest ih =>
    obtain ⟨key, old⟩ := first
    by_cases hkey : key = name
    · simp only [put, hkey, if_true, List.mem_cons] at h ⊢
      exact h.imp_right .inr
    · simp only [put, hkey, if_false, List.mem_cons] at h ⊢
      rcases h with h | h
      · exact .inr (.inl h)
      · exact (ih h).imp_right .inr

/-! ## Writing a table over another -/

/-- The names of the lower table come first, and then the new ones of the upper table. -/
theorem keys_overlay {base : Entries α} (h : base.keys.Nodup) (top : Entries α) :
    (base.overlay top).keys = (base.keys ++ top.keys).eraseDups := by
  induction top generalizing base with
  | nil => simp [overlay, eraseDups_of_nodup h]
  | cons entry rest ih =>
    obtain ⟨key, value⟩ := entry
    have hkeys : (base.put key value).keys = (base.keys ++ [key]).eraseDups := by
      rw [keys_put, eraseDups_concat, eraseDups_of_nodup h]
    have hnodup : (base.put key value).keys.Nodup := hkeys ▸ nodup_eraseDups _
    have hstep : (base.overlay ((key, value) :: rest)).keys =
        ((base.put key value).overlay rest).keys := rfl
    rw [hstep, ih hnodup, hkeys, eraseDups_eraseDups_append, keys_cons, List.append_assoc,
      List.singleton_append]

/-- The last value that the upper table gives for a name is found, and below it that of the lower
table. -/
theorem find?_overlay (base top : Entries α) (name : String) :
    (base.overlay top).find? name = (find? top.reverse name).or (base.find? name) := by
  induction top generalizing base with
  | nil => simp [overlay]
  | cons entry rest ih =>
    obtain ⟨key, value⟩ := entry
    have hstep : (base.overlay ((key, value) :: rest)).find? name =
        ((base.put key value).overlay rest).find? name := rfl
    rw [hstep, ih, List.reverse_cons, find?_append, find?_cons, find?_put, find?_nil]
    by_cases hkey : key = name
    · simp [hkey]
    · simp [hkey, Ne.symm hkey]

theorem mem_of_mem_overlay {base top : Entries α} {entry : String × α}
    (h : entry ∈ base.overlay top) : entry ∈ base ∨ entry ∈ top := by
  induction top generalizing base with
  | nil => exact .inl h
  | cons first rest ih =>
    obtain ⟨key, value⟩ := first
    have hrest : entry ∈ (base.put key value).overlay rest := h
    rcases ih hrest with h | h
    · rcases mem_of_mem_put h with rfl | h
      · exact .inr (List.mem_cons_self ..)
      · exact .inl h
    · exact .inr (List.mem_cons_of_mem _ h)

/-- Of tables written over each other, the names stand in the order of their first appearance. -/
theorem keys_foldl_overlay {base : Entries α} (h : base.keys.Nodup) (tables : List (Entries α)) :
    (tables.foldl overlay base).keys = (base.keys ++ tables.flatMap keys).eraseDups := by
  induction tables generalizing base with
  | nil => simp [eraseDups_of_nodup h]
  | cons table rest ih =>
    have hkeys := keys_overlay h table
    have hnodup : (base.overlay table).keys.Nodup := hkeys ▸ nodup_eraseDups _
    rw [List.foldl_cons, ih hnodup, hkeys, eraseDups_eraseDups_append, List.flatMap_cons,
      List.append_assoc]

/-- The last table that has a name says what is found under it. -/
theorem find?_foldl_overlay (base : Entries α) {tables : List (Entries α)}
    (h : ∀ table ∈ tables, table.keys.Nodup) (name : String) :
    (tables.foldl overlay base).find? name =
      (tables.reverse.findSome? fun table => find? table name).or (base.find? name) := by
  induction tables generalizing base with
  | nil => simp
  | cons table rest ih =>
    obtain ⟨htable, hrest⟩ := List.forall_mem_cons.mp h
    rw [List.foldl_cons, ih _ hrest, find?_overlay, find?_reverse htable, List.reverse_cons,
      List.findSome?_append, Option.or_assoc]
    simp [List.findSome?_cons]
    cases find? table name <;> rfl

/-! ### Laws of writing tables over each other -/

theorem nodup_keys_overlay {base : Entries α} (h : base.keys.Nodup) (top : Entries α) :
    (base.overlay top).keys.Nodup := by
  rw [keys_overlay h]
  exact nodup_eraseDups _

@[simp] theorem overlay_nil (base : Entries α) : base.overlay [] = base := rfl

/-- It does not matter which two of three tables are written over each other first. -/
theorem overlay_assoc {base middle : Entries α} (hbase : base.keys.Nodup)
    (hmiddle : middle.keys.Nodup) (top : Entries α) :
    (base.overlay middle).overlay top = base.overlay (middle.overlay top) := by
  have hlower := nodup_keys_overlay hbase middle
  have hupper := nodup_keys_overlay hmiddle top
  refine eq_of_find? (nodup_keys_overlay hlower top) ?_ fun name => ?_
  · rw [keys_overlay hlower, keys_overlay hbase, keys_overlay hbase, keys_overlay hmiddle,
      eraseDups_eraseDups_append, eraseDups_append_eraseDups, List.append_assoc]
  · rw [find?_overlay, find?_overlay, find?_overlay, find?_reverse hupper, find?_reverse hmiddle,
      find?_overlay, Option.or_assoc]

/-- A table over the empty one is that table. -/
theorem nil_overlay {entries : Entries α} (h : entries.keys.Nodup) :
    overlay [] entries = entries := by
  have hnil : (keys ([] : Entries α)).Nodup := List.nodup_nil
  refine eq_of_find? (nodup_keys_overlay hnil entries) ?_ fun name => ?_
  · rw [keys_overlay hnil, keys_nil, List.nil_append, eraseDups_of_nodup h]
  · rw [find?_overlay, find?_reverse h, find?_nil, Option.or_none]

/-- A table over itself is that table. -/
theorem overlay_self {entries : Entries α} (h : entries.keys.Nodup) :
    entries.overlay entries = entries := by
  refine eq_of_find? (nodup_keys_overlay h entries) ?_ fun name => ?_
  · rw [keys_overlay h, eraseDups_append_of_subset (List.Subset.refl _), eraseDups_of_nodup h]
  · rw [find?_overlay, find?_reverse h, Option.or_self]

/-! ## The table without repeated names -/

/-- The names stand in the order of their first appearance. -/
theorem keys_collapse (entries : Entries α) : entries.collapse.keys = entries.keys.eraseDups := by
  have hbase : (keys ([] : Entries α)).Nodup := List.nodup_nil
  exact keys_overlay hbase entries

theorem find?_collapse (entries : Entries α) (name : String) :
    entries.collapse.find? name = find? entries.reverse name := by
  simp [collapse, find?_overlay]

theorem mem_of_mem_collapse {entries : Entries α} {entry : String × α}
    (h : entry ∈ entries.collapse) : entry ∈ entries :=
  (mem_of_mem_overlay h).resolve_left (List.not_mem_nil)

theorem nodup_keys_collapse (entries : Entries α) : entries.collapse.keys.Nodup := by
  rw [keys_collapse]
  exact nodup_eraseDups _

end Entries

end ApiToolkit
