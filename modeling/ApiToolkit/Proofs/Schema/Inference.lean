import ApiToolkit.Proofs.Json.Parts
import ApiToolkit.Proofs.Schema.Merging
import ApiToolkit.Schema.Inference
/-!
# What inference gives

## What is inside

- `Schema.inferAll_eq_map`, `Schema.find?_inferProperties`: the parts of a sample are inferred one
  by one.
- `Schema.everywhere_infer`, `Schema.everywhere_infer_of_forall`: what holds at the nodes that
  inference and merging make holds at every node of the schema of a sample.
-/

namespace ApiToolkit.Schema

variable (strict : Bool)

theorem inferAll_eq_map (samples : List Json) :
    inferAll strict samples = samples.map (infer strict) := by
  induction samples with
  | nil => rfl
  | cons sample rest ih => rw [inferAll, ih, List.map_cons]

theorem inferProperties_eq_map (entries : Entries Json) :
    inferProperties strict entries = entries.map fun entry => (entry.1, infer strict entry.2) := by
  induction entries with
  | nil => rfl
  | cons entry rest ih =>
    obtain ⟨key, sample⟩ := entry
    rw [inferProperties, ih, List.map_cons]

/-- A property is declared by the value that the sample has under its name. -/
theorem find?_inferProperties (entries : Entries Json) (name : String) :
    Entries.find? (inferProperties strict entries) name =
      (entries.find? name).map (infer strict) := by
  rw [inferProperties_eq_map, Entries.find?_map_values]

/-- The declared names are the keys of the sample. -/
theorem keys_inferProperties (entries : Entries Json) :
    Entries.keys (inferProperties strict entries) = entries.keys := by
  rw [inferProperties_eq_map, Entries.keys, Entries.keys, List.map_map]
  rfl

/-- What holds at the nodes that merging makes, at primitives other than integers and at the nodes
of the objects inside a sample holds at every node of its schema. -/
theorem everywhere_infer {P : Schema → Prop} (hP : MergeStable P)
    (hprimitive : ∀ type, type ≠ .integer → P (.primitive type)) {Q : Entries Json → Prop}
    (hobject : ∀ entries, Q entries → P (infer strict (.obj entries))) {sample : Json}
    (h : sample.EveryObject Q) : Everywhere P (infer strict sample) := by
  induction h with
  | @node sample here below ih =>
    cases sample with
    | null => exact .node (hprimitive _ (by decide)) (by simp [infer, children])
    | bool b => exact .node (hprimitive _ (by decide)) (by simp [infer, children])
    | num n => exact .node (hprimitive _ (by decide)) (by simp [infer, children])
    | str s => exact .node (hprimitive _ (by decide)) (by simp [infer, children])
    | arr items =>
      rw [infer, inferAll_eq_map]
      refine .node (hP.array _) fun child hchild => ?_
      rw [children, List.mem_singleton] at hchild
      rw [hchild]
      refine everywhere_merge hP fun s hs => ?_
      obtain ⟨item, hitem, rfl⟩ := List.mem_map.mp hs
      exact ih item hitem
    | obj entries =>
      refine .node (hobject entries (here entries rfl)) fun child hchild => ?_
      rw [infer, inferProperties_eq_map] at hchild
      simp only [children, List.map_map, List.mem_map] at hchild
      obtain ⟨entry, hentry, rfl⟩ := hchild
      exact ih entry.2 (List.mem_map.mpr ⟨entry, hentry, rfl⟩)

/-- The same for what holds at the nodes of all objects, whatever samples they are. -/
theorem everywhere_infer_of_forall {P : Schema → Prop} (hP : MergeStable P)
    (hprimitive : ∀ type, type ≠ .integer → P (.primitive type))
    (hobject : ∀ entries, P (infer strict (.obj entries))) (sample : Json) :
    Everywhere P (infer strict sample) :=
  everywhere_infer strict hP hprimitive (fun entries _ => hobject entries)
    (Json.everyObject_of_forall (Q := fun _ => True) (fun _ => trivial) sample)

end ApiToolkit.Schema
