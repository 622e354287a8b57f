import ApiToolkit.Proofs.Schema.NormalForm
import Mathlib.Data.List.Forall2
import Mathlib.Data.List.Perm.Basic
/-!
# The order of the schemas that are merged

Merging keeps the first of several primitives with one place, lists properties as they come up and
leaves objects and arrays in a union as they stand.  So the order of the schemas shows in what they
are merged into, but only as an order of alternatives, of properties and of required names, and in
which of number and integer stands for both.

## What is inside

- `Schema.Reordered`: equality up to these orders, with integers read as numbers.
- `Schema.reordered_unionOf`, `Schema.reordered_mergedObject`: unions and objects of the same
  schemas.
- `Schema.reordered_merge`: schemas in any order are merged into the same, up to order.
-/

namespace ApiToolkit.Schema

/-! ## Equality up to order -/

/-- Two schemas are equal up to the order of alternatives, of properties and of required names at
any depth, if integers are read as numbers. -/
inductive Reordered : Schema → Schema → Prop where
  | any : Reordered .any .any
  | primitive {type other : Primitive} (place : slot type = slot other) :
      Reordered (.primitive type) (.primitive other)
  | object {properties arranged others : Entries Schema} {required names : List String}
      {isOpen : Bool} (order : properties.Perm arranged) (keys : arranged.keys = others.keys)
      (each : List.Forall₂ Reordered (arranged.map (·.2)) (others.map (·.2)))
      (requires : required.Perm names) :
      Reordered (.object properties required isOpen) (.object others names isOpen)
  | emptyArray : Reordered (.array none) (.array none)
  | array {items others : Schema} (item : Reordered items others) :
      Reordered (.array (some items)) (.array (some others))
  | union {alternatives arranged others : List Schema} (order : alternatives.Perm arranged)
      (each : List.Forall₂ Reordered arranged others) :
      Reordered (.union alternatives) (.union others)

theorem Reordered.refl (schema : Schema) : Reordered schema schema := by
  induction schema using children_induction with
  | step schema ih =>
    cases schema with
    | any => exact .any
    | primitive type => exact .primitive rfl
    | object properties required isOpen =>
      exact .object (List.Perm.refl _) rfl (List.forall₂_same.mpr ih) (List.Perm.refl _)
    | array items =>
      cases items with
      | none => exact .emptyArray
      | some items => exact .array (ih items (List.mem_singleton_self items))
    | union members => exact .union (List.Perm.refl _) (List.forall₂_same.mpr ih)

/-! ## Unions -/

/-- A schema with its place, if it is a primitive. -/
def placed : Schema → Schema
  | .primitive type => .primitive (slot type)
  | other => other

/-- The place of a primitive. -/
def place? : Schema → Option Primitive
  | .primitive type => some (slot type)
  | _ => none

/-- Whether a schema is kept in a union however often it stands there. -/
def isStructured : Schema → Bool
  | .object .. | .array _ => true
  | _ => false

/-- The first appearances of the places that are still free, as schemas. -/
def freePlaces (seen : List Primitive) (schemas : List Schema) : List Schema :=
  (((schemas.filterMap place?).filter fun place => !seen.contains place).eraseDups).map .primitive

theorem reordered_of_placed_eq {first second : Schema} (h : placed first = placed second) :
    Reordered first second := by
  by_cases hfirst : ∃ type, first = .primitive type
  · obtain ⟨type, rfl⟩ := hfirst
    cases second with
    | primitive other => exact .primitive (Schema.primitive.inj h)
    | _ => cases h
  · by_cases hsecond : ∃ type, second = .primitive type
    · obtain ⟨type, rfl⟩ := hsecond
      cases first with
      | primitive other => exact absurd ⟨other, rfl⟩ hfirst
      | _ => cases h
    · -- Neither is a primitive, so the two are the same.
      have hkeep : ∀ s : Schema, (¬ ∃ type, s = .primitive type) → placed s = s := by
        intro s hs
        cases s with
        | primitive type => exact absurd ⟨type, rfl⟩ hs
        | _ => rfl
      rw [hkeep first hfirst, hkeep second hsecond] at h
      exact h ▸ Reordered.refl first

/-- What is known of a list: its objects and arrays, and one schema for each free place. -/
theorem perm_distinctKnown (seen : List Primitive) (schemas : List Schema) :
    ((distinctKnown seen schemas).map placed).Perm
      (schemas.filter isStructured ++ freePlaces seen schemas) := by
  induction schemas generalizing seen with
  | nil => exact List.Perm.refl _
  | cons schema rest ih =>
    cases schema with
    | any => exact ih seen
    | union members => exact ih seen
    | object properties required isOpen => exact (ih seen).cons _
    | array items => exact (ih seen).cons _
    | primitive type =>
      rw [distinctKnown]
      split
      next htaken =>
        have hdrop : freePlaces seen (.primitive type :: rest) = freePlaces seen rest := by
          simp only [freePlaces, List.filterMap_cons, place?, List.filter_cons, htaken]
          simp
        rw [hdrop]
        exact ih seen
      next hfree =>
        -- The place comes up first here, and is taken for the rest.
        have htake : freePlaces seen (.primitive type :: rest) =
            .primitive (slot type) :: freePlaces (slot type :: seen) rest := by
          simp only [freePlaces, List.filterMap_cons, place?, List.filter_cons, hfree]
          simp only [Bool.not_false, if_true, List.eraseDups_cons, List.map_cons,
            List.filter_filter]
          congr 4
          funext place
          rw [Bool.eq_iff_iff]
          simp [and_comm]
        rw [htake, List.map_cons]
        exact ((ih _).cons _).trans List.perm_middle.symm

theorem perm_freePlaces {schemas others : List Schema} (h : schemas.Perm others)
    (seen : List Primitive) : (freePlaces seen schemas).Perm (freePlaces seen others) :=
  (perm_eraseDups ((h.filterMap place?).filter _)).map _

/-- What is known of the same schemas in another order is the same up to order. -/
theorem exists_perm_distinctKnown {schemas others : List Schema} (h : schemas.Perm others) :
    ∃ arranged, (distinctKnown [] schemas).Perm arranged ∧
      List.Forall₂ Reordered arranged (distinctKnown [] others) := by
  have hplaced : ((distinctKnown [] schemas).map placed).Perm
      ((distinctKnown [] others).map placed) :=
    (perm_distinctKnown [] schemas).trans
      (((h.filter _).append (perm_freePlaces h [])).trans (perm_distinctKnown [] others).symm)
  -- An order of the images is one of the schemas themselves.
  have hcomp : Relation.Comp (List.Forall₂ fun s image => placed s = image) List.Perm
      (distinctKnown [] schemas) ((distinctKnown [] others).map placed) :=
    ⟨_, List.forall₂_map_right_iff.mpr (List.forall₂_same.mpr fun _ _ => rfl), hplaced⟩
  rw [List.forall₂_comp_perm_eq_perm_comp_forall₂] at hcomp
  obtain ⟨arranged, horder, heach⟩ := hcomp
  exact ⟨arranged, horder, (List.forall₂_map_right_iff.mp heach).imp
    fun _ _ heq => reordered_of_placed_eq heq⟩

theorem reordered_oneOf {members arranged others : List Schema} (order : members.Perm arranged)
    (each : List.Forall₂ Reordered arranged others) : Reordered (oneOf members) (oneOf others) := by
  have hlength : members.length = others.length := order.length_eq.trans each.length_eq
  match members, others, hlength with
  | [], [], _ => exact .union order each
  | [member], [other], _ =>
    rw [List.singleton_perm] at order
    subst order
    exact (List.forall₂_cons.mp each).1
  | _ :: _ :: _, _ :: _ :: _, _ => exact .union order each

/-- **Unions**: the union of the same schemas in another order is the same up to order. -/
theorem reordered_unionOf {schemas others : List Schema} (h : schemas.Perm others) :
    Reordered (unionOf schemas) (unionOf others) := by
  obtain ⟨arranged, horder, heach⟩ := exists_perm_distinctKnown h
  rw [unionOf_eq, unionOf_eq, h.any_eq]
  split
  · exact .union (horder.append_right _)
      (List.rel_append heach (List.forall₂_same.mpr fun s _ => .refl s))
  · exact reordered_oneOf horder heach

/-! ## Objects -/

theorem perm_propertyNames {objects others : List Shape} (h : objects.Perm others) :
    (propertyNames objects).Perm (propertyNames others) :=
  perm_eraseDups (h.flatMap_right _)

/-- **Objects**: an object merged from the same objects in another order has the same properties and
required names, if what they declare for a name is merged into the same. -/
theorem reordered_mergedObject {objects others : List Shape} (h : objects.Perm others)
    (hdeclared : ∀ name, Reordered (merge (declared objects name)) (merge (declared others name))) :
    Reordered (mergedObject objects) (mergedObject others) := by
  have hnames := perm_propertyNames h
  have hrequires : ∀ name : String, (objects.all fun object => object.required.contains name) =
      others.all fun object => object.required.contains name := fun name => h.all_eq
  rw [mergedObject, mergedObject, hnames.isEmpty_eq]
  simp only [hrequires]
  -- The names are put into the other order first, and then the schemas are compared name by name.
  refine .object (hnames.map _) ?_ ?_ (hnames.filter _)
  · simp only [Entries.keys, List.map_map]
    rfl
  · rw [List.map_map, List.map_map, List.forall₂_map_left_iff, List.forall₂_map_right_iff]
    exact List.forall₂_same.mpr fun name _ => hdeclared name

/-! ## Merging -/

theorem perm_kinds {flat others : List Schema} (h : flat.Perm others) :
    (kinds flat).Perm (kinds others) := perm_eraseDups (h.map _)

/-- Of flattened schemas of one kind without parts, any one may stand first. -/
theorem reordered_head {flat others : List Schema} (h : flat.Perm others)
    (hflat : ∀ s ∈ flat, ∀ members, s ≠ .union members) {k : Kind} (hk : kinds flat = [k])
    (hk' : kinds others = [k]) (hobject : k ≠ .object) (harray : k ≠ .array) :
    Reordered (mergeFlat flat) (mergeFlat others) := by
  rw [mergeFlat_of_single hk hobject harray, mergeFlat_of_single hk' hobject harray]
  have hhead := h.symm.subset (headD_mem_of_kinds hk')
  rw [eq_headD_of_mem hk hflat hobject harray hhead]
  exact .refl _

/-- Flattened schemas in another order are merged into the same up to order, if that is so for the
parts of objects and arrays. -/
theorem reordered_mergeFlat {flat others : List Schema} (h : flat.Perm others)
    (hflat : ∀ s ∈ flat, ∀ members, s ≠ .union members)
    (hdeclared : ∀ name parts, (declared (shapes flat) name).Perm parts →
      Reordered (merge (declared (shapes flat) name)) (merge parts))
    (hitems : ∀ parts, (itemSchemas flat).Perm parts →
      Reordered (merge (itemSchemas flat)) (merge parts)) :
    Reordered (mergeFlat flat) (mergeFlat others) := by
  have hkinds := perm_kinds h
  rcases kinds_cases flat with hk | ⟨k, hk⟩ | hk
  · rw [hk, List.nil_perm] at hkinds
    rw [mergeFlat_of_nil hk, mergeFlat_of_nil hkinds]
    exact .any
  · rw [hk, List.singleton_perm] at hkinds
    have hk' := hkinds.symm
    cases k with
    | object =>
      have hshapes : (shapes flat).Perm (shapes others) := by
        rw [shapes_eq_filterMap, shapes_eq_filterMap]
        exact h.filterMap _
      rw [mergeFlat_of_object hk, mergeFlat_of_object hk']
      exact reordered_mergedObject hshapes fun name => hdeclared name _ (hshapes.filterMap _)
    | array =>
      have hperm : (itemSchemas flat).Perm (itemSchemas others) := by
        rw [itemSchemas_eq_filterMap, itemSchemas_eq_filterMap]
        exact h.filterMap _
      rw [mergeFlat_of_array hk, mergeFlat_of_array hk']
      exact .array (hitems _ hperm)
    | primitive type => exact reordered_head h hflat hk hk' nofun nofun
    | unknown => exact reordered_head h hflat hk hk' nofun nofun
  · rw [mergeFlat_of_several hk, mergeFlat_of_several (hkinds.length_eq ▸ hk)]
    exact reordered_unionOf h

/-- **Order of merging**: schemas in another order are merged into the same up to the order of
alternatives, of properties and of required names, if integers are read as numbers. -/
theorem reordered_merge {schemas others : List Schema} (h : schemas.Perm others) :
    Reordered (merge schemas) (merge others) := by
  induction schemas using parts_induction generalizing others with
  | nil =>
    rw [List.nil_perm] at h
    rw [h]
    exact .refl _
  | single schema =>
    rw [List.singleton_perm] at h
    rw [← h]
    exact .refl _
  | several first second rest hdeclared hitems =>
    match others, h.length_eq with
    | first' :: second' :: rest', _ =>
      have hflat : (flatten (first :: second :: rest)).Perm
          (flatten (first' :: second' :: rest')) := by
        rw [flatten_eq_flatMap, flatten_eq_flatMap]
        exact h.flatMap_right _
      rw [merge_of_several, merge_of_several]
      exact reordered_mergeFlat hflat (fun s hs => ne_union_of_mem_flatten _ hs)
        (fun name parts hparts => hdeclared name hparts) (fun parts hparts => hitems hparts)

/-- Two objects that list their properties in different orders; one of them has an integer. -/
def countedObject : Schema :=
  .object [("a", .primitive .integer), ("b", .primitive .string)] ["a", "b"] false

def labelledObject : Schema :=
  .object [("b", .primitive .boolean), ("a", .primitive .number)] ["b", "a"] false

theorem reordered_merge_objects :
    [countedObject, labelledObject].Perm [labelledObject, countedObject] ∧
    merge [countedObject, labelledObject] =
      .object [("a", .primitive .integer), ("b", .union [.primitive .string, .primitive .boolean])]
        ["a", "b"] false ∧
    merge [labelledObject, countedObject] =
      .object [("b", .union [.primitive .boolean, .primitive .string]), ("a", .primitive .number)]
        ["b", "a"] false ∧
    Reordered (merge [countedObject, labelledObject]) (merge [labelledObject, countedObject]) :=
  ⟨.swap .., by cbv, by cbv, reordered_merge (.swap ..)⟩

end ApiToolkit.Schema
