import ApiToolkit.Json.Basic
import ApiToolkit.Proofs.Entries
import Mathlib.Logic.Relation
/-!
# The parts of JSON values

## What is inside

- `Json.children`, `Json.children_induction`: the values right below a value, and the induction
  that goes with them.
- `Json.Within`, `Json.within_induction`: the values inside a value, and their induction.
- `Json.EveryObject`: a property of every object inside a value.
- `Json.Distinct`: no object inside a value repeats a key.
- `Json.distinct_collapse`: collapsing repeated keys leaves none.
-/

namespace ApiToolkit.Json

/-! ## Parts -/

/-- The values right below a value. -/
def children : Json → List Json
  | .arr items => items
  | .obj entries => entries.map (·.2)
  | _ => []

theorem sizeOf_lt_of_mem_children {value child : Json} (h : child ∈ value.children) :
    sizeOf child < sizeOf value := by
  cases value with
  | arr items =>
    have hlt : sizeOf child < sizeOf items := List.sizeOf_lt_of_mem h
    simp only [arr.sizeOf_spec]
    omega
  | obj entries =>
    obtain ⟨entry, hentry, rfl⟩ := List.mem_map.mp h
    have hlt := List.sizeOf_lt_of_mem hentry
    obtain ⟨key, inner⟩ := entry
    simp only [obj.sizeOf_spec, Prod.mk.sizeOf_spec] at hlt ⊢
    omega
  | null => cases h
  | bool b => cases h
  | num n => cases h
  | str s => cases h

/-- What holds of a value whenever it holds of the values right below holds of every value. -/
theorem children_induction {motive : Json → Prop}
    (step : ∀ value, (∀ child ∈ value.children, motive child) → motive value) (value : Json) :
    motive value :=
  step value fun child h =>
    have := sizeOf_lt_of_mem_children h
    children_induction step child
termination_by sizeOf value

/-- What is found in an object is right below it. -/
theorem mem_children_of_find? {entries : Entries Json} {name : String} {value : Json}
    (h : entries.find? name = some value) : value ∈ (Json.obj entries).children :=
  List.mem_map.mpr ⟨(name, value), Entries.mem_of_find? h, rfl⟩

/-! ## Values inside a value -/

/-- A value is inside another one at some depth, or is that value itself. -/
def Within : Json → Json → Prop :=
  Relation.ReflTransGen fun child value => child ∈ value.children

/-- What holds of a value whenever it holds of all values inside it holds of every value. -/
theorem within_induction {motive : Json → Prop}
    (step : ∀ value, (∀ child ∈ value.children, ∀ part, part.Within child → motive part) →
      motive value) (value : Json) : motive value := by
  have hall : ∀ part, part.Within value → motive part := by
    induction value using children_induction with
    | step value ih =>
      intro part hpart
      rcases Relation.ReflTransGen.cases_tail hpart with rfl | ⟨child, hpart, hchild⟩
      · exact step _ ih
      · exact ih child hchild part hpart
  exact hall value .refl

/-! ## Objects inside a value -/

/-- A property of every object inside a value. -/
inductive EveryObject (Q : Entries Json → Prop) : Json → Prop where
  /-- The value has the property if it is an object, and so have the objects below it. -/
  | node {value : Json} (here : ∀ entries, value = .obj entries → Q entries)
      (below : ∀ child ∈ value.children, EveryObject Q child) : EveryObject Q value

theorem everyObject_of_forall {Q : Entries Json → Prop} (h : ∀ entries, Q entries)
    (value : Json) : EveryObject Q value := by
  induction value using children_induction with
  | step value ih => exact .node (fun entries _ => h entries) ih

/-- No object inside the value repeats a key. -/
def Distinct (value : Json) : Prop := EveryObject (fun entries => entries.keys.Nodup) value

/-! ## Collapsing repeated keys -/

theorem collapseItems_eq_map (items : List Json) : collapseItems items = items.map collapse := by
  induction items with
  | nil => rfl
  | cons item rest ih => rw [collapseItems, ih, List.map_cons]

theorem collapseEntries_eq_map (entries : List (String × Json)) :
    collapseEntries entries = entries.map fun entry => (entry.1, collapse entry.2) := by
  induction entries with
  | nil => rfl
  | cons entry rest ih =>
    obtain ⟨key, value⟩ := entry
    rw [collapseEntries, ih, List.map_cons]

/-- Collapsing repeated keys leaves none, at any depth. -/
theorem distinct_collapse (value : Json) : value.collapse.Distinct := by
  induction value using children_induction with
  | step value ih =>
    cases value with
    | arr items =>
      rw [collapse, collapseItems_eq_map]
      refine .node (fun entries h => by cases h) fun child hchild => ?_
      obtain ⟨item, hitem, rfl⟩ := List.mem_map.mp hchild
      exact ih item hitem
    | obj entries =>
      rw [collapse, collapseEntries_eq_map]
      refine .node (fun collapsed h => ?_) fun child hchild => ?_
      · cases h
        exact Entries.nodup_keys_collapse _
      · obtain ⟨entry, hentry, rfl⟩ := List.mem_map.mp hchild
        obtain ⟨original, horiginal, rfl⟩ := List.mem_map.mp (Entries.mem_of_mem_collapse hentry)
        exact ih original.2 (List.mem_map.mpr ⟨original, horiginal, rfl⟩)
    | null => exact .node (fun entries h => by cases h) (fun child h => by cases h)
    | bool b => exact .node (fun entries h => by cases h) (fun child h => by cases h)
    | num n => exact .node (fun entries h => by cases h) (fun child h => by cases h)
    | str s => exact .node (fun entries h => by cases h) (fun child h => by cases h)

end ApiToolkit.Json
