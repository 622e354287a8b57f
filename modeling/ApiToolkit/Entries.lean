/-!
# Ordered entries

An object of a document, a header table and a service registry are all lists of named entries
that remember the order in which the names first appeared.

## What is inside

- `Entries.find?`, `Entries.keys`: the views that the other operations are described by.
- `Entries.put`: writing keeps the place of a known name and appends a new one.
- `Entries.overlay`: writing one table over another, entry by entry.
- `Entries.swapErase?`: taking an entry out and moving the last one into its place.
-/

namespace ApiToolkit

/-- A list of named values, in order. -/
abbrev Entries (α : Type u) := List (String × α)

namespace Entries

variable {α : Type u} {β : Type v}

/-- The value of the first entry called `name`. -/
def find? (entries : Entries α) (name : String) : Option α :=
  match entries with
  | [] => none
  | (key, value) :: rest => if key = name then some value else find? rest name

/-- The names in order. -/
def keys (entries : Entries α) : List String := entries.map (·.1)

/-- Whether an entry has this name. -/
def has (entries : Entries α) (name : String) : Bool := (entries.find? name).isSome

/-- Writes a value under a name: in place if the name is known, at the end otherwise. -/
def put (entries : Entries α) (name : String) (value : α) : Entries α :=
  match entries with
  | [] => [(name, value)]
  | (key, old) :: rest =>
    -- The place of a known name is kept, whatever follows it.
    if key = name then (key, value) :: rest else (key, old) :: put rest name value

/-- Writes every entry of `top` over `base`, from the first to the last. -/
def overlay (base top : Entries α) : Entries α :=
  top.foldl (fun table entry => table.put entry.1 entry.2) base

/-- Collapses repeated names: the first place is kept and the last value wins. -/
def collapse (entries : Entries α) : Entries α := overlay [] entries

/-- The entries before the one called `name`, its value, and the entries after it. -/
def split? (entries : Entries α) (name : String) : Option (Entries α × α × Entries α) :=
  match entries with
  | [] => none
  | (key, value) :: rest =>
    if key = name then some ([], value, rest)
    else (split? rest name).map fun (before, found, after) => ((key, value) :: before, found, after)

/-- Takes the entry called `name` out; the last entry moves into the place that became free. -/
def swapErase? (entries : Entries α) (name : String) : Option (α × Entries α) :=
  (entries.split? name).map fun (before, value, after) =>
    (value, before ++ (after.getLast?.toList ++ after.dropLast))

/-- Applies a function to every value. -/
def mapValues (f : α → β) (entries : Entries α) : Entries β :=
  entries.map fun entry => (entry.1, f entry.2)

/-! ## Small laws -/

/-- What is written under a name is found under it. -/
theorem find?_put_self (entries : Entries α) (name : String) (value : α) :
    (entries.put name value).find? name = some value := by
  induction entries with
  | nil => simp [put, find?]
  | cons entry rest ih =>
    obtain ⟨key, old⟩ := entry
    by_cases h : key = name <;> simp [put, find?, h, ih]

/-- Writing under one name leaves what is found under the others. -/
theorem find?_put_of_ne (entries : Entries α) {name other : String} (value : α)
    (h : other ≠ name) : (entries.put name value).find? other = entries.find? other := by
  induction entries with
  | nil => simp [put, find?, h.symm]
  | cons entry rest ih =>
    obtain ⟨key, old⟩ := entry
    by_cases hk : key = name
    · simp [put, find?, hk, h.symm]
    · by_cases ho : key = other
      · subst ho
        simp [put, find?, hk]
      · simp [put, find?, hk, ho, ih]

/-- What is found is the value of an entry. -/
theorem mem_of_find? {entries : Entries α} {name : String} {value : α}
    (h : entries.find? name = some value) : (name, value) ∈ entries := by
  induction entries with
  | nil => simp [find?] at h
  | cons entry rest ih =>
    obtain ⟨key, old⟩ := entry
    by_cases hk : key = name
    · simp_all [find?]
    · simp only [find?, hk, if_false] at h
      exact List.mem_cons_of_mem _ (ih h)

end Entries

end ApiToolkit
