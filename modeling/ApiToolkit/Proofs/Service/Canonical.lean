import ApiToolkit.Proofs.Naming.Cuts
import ApiToolkit.Proofs.Service.Registry
/-!
# Names as ids

The name of a service is an id as well, and its name is itself: what the words of an id are joined
to may be cut into other words, but each of these begins with a capital letter already.  So ids fall
into classes with one name each, and a registry holds at most one id of a class.

## What is inside

- `Naming.exists_humps_capital`: the words of a text without separators after the first one.
- `Naming.pascal_of_capital`, `Naming.pascal_pascal`: the name of a name.
- `Naming.serviceIdentifier_name`: names are ids.
- `Registry.Run.Holds`: the ids that a registry holds.
- `Registry.Run.exists_holds_iff`, `Registry.Run.Consistent.register_of_holds`: which ids can be
  held together, and what happens to the others.
- `Registry.Run.canonical_serviceIdentifier`: names stand for the classes of ids.
-/

namespace ApiToolkit

namespace Naming

open Letter

/-! ## The name of a name -/

/-- Words after the first one begin with a capital letter. -/
theorem exists_humps_capital (c : Char) (rest : List Char) :
    ∃ word more, humps (c :: rest) = (c :: word) :: more ∧
      ∀ later ∈ more, ∃ d tail, later = d :: tail ∧ isUppercase d = true := by
  -- A word that was the first one is a later one only if a word begins at its first character.
  induction rest generalizing c with
  | nil => exact ⟨[], [], rfl, List.forall_mem_nil _⟩
  | cons d rest ih =>
    obtain ⟨word, more, hhumps, hmore⟩ := ih d
    rw [humps]
    split
    next hbegins =>
      have hupper : isUppercase d = true := (beginsWord_iff.mp hbegins).1
      rw [hhumps]
      exact ⟨[], _, rfl, List.forall_mem_cons.mpr ⟨⟨d, word, rfl, hupper⟩, hmore⟩⟩
    next =>
      rw [hhumps]
      exact ⟨d :: word, more, rfl, hmore⟩

theorem asciiUpper_of_isUppercase {c : Char} (hascii : c.toNat < 0x80)
    (h : isUppercase c = true) : asciiUpper c = c :=
  Letter.forall_of_toNat_lt (p := fun c => isUppercase c = true → asciiUpper c = c) (by decide)
    hascii h

theorem asciiUpper_asciiUpper {c : Char} (hascii : c.toNat < 0x80) :
    asciiUpper (asciiUpper c) = asciiUpper c :=
  Letter.forall_of_toNat_lt (p := fun c => asciiUpper (asciiUpper c) = asciiUpper c) (by decide)
    hascii

/-- A text without separators that begins with no small letter is its own name. -/
theorem pascal_of_capital {c : Char} {rest : List Char} (hc : asciiUpper c = c)
    (hletters : ∀ d ∈ c :: rest, d.toNat < 0x80 ∧ isWordChar d = true) :
    pascal (c :: rest) = c :: rest := by
  obtain ⟨word, more, hhumps, hmore⟩ := exists_humps_capital c rest
  have hflat := flatten_humps (c :: rest)
  rw [hhumps, List.flatten_cons] at hflat
  have hfirst : capitalize (c :: word) = c :: word := by
    rw [capitalize, upper_of_lt (hletters c List.mem_cons_self).1, hc, List.singleton_append]
  have hlater : ∀ later ∈ more, capitalize later = later := by
    intro later hmem
    obtain ⟨d, tail, rfl, hd⟩ := hmore later hmem
    have hdmem : d ∈ c :: rest := by
      rw [← hflat]
      exact List.mem_append_right _ (List.mem_flatten.mpr ⟨_, hmem, List.mem_cons_self⟩)
    have hascii := (hletters d hdmem).1
    rw [capitalize, upper_of_lt hascii, asciiUpper_of_isUppercase hascii hd, List.singleton_append]
  rw [pascal, words_of_forall fun d hd => (hletters d hd).2, hhumps, List.flatMap_cons, hfirst,
    List.flatMap_def, List.map_congr_left hlater, List.map_id', hflat]

/-- The name of a text that ids may have is its own name. -/
theorem pascal_pascal {id : List Char} (h : ∀ c ∈ id, isIdChar c = true) :
    pascal (pascal id) = pascal id := by
  have hascii : ∀ c ∈ id, c.toNat < 0x80 := fun c hc => toNat_lt_of_isIdChar (h c hc)
  have hhead := head?_pascal hascii
  cases hname : pascal id with
  | nil => rfl
  | cons c rest =>
    rw [hname, List.head?_cons, eq_comm, Option.map_eq_some_iff] at hhead
    obtain ⟨first, hfirst, rfl⟩ := hhead
    refine pascal_of_capital ?_ fun d hd => ?_
    · exact asciiUpper_asciiUpper (hascii first (List.mem_of_find?_eq_some hfirst))
    · have hd := isAsciiAlphanumeric_of_mem_pascal h (hname ▸ hd)
      have hid : isIdChar d = true := isIdChar_iff.mpr (.inl hd)
      exact ⟨toNat_lt_of_isIdChar hid, by rw [isWordChar_of_isIdChar hid, hd]⟩

/-- The name of a service is an id, and its name is itself. -/
theorem serviceIdentifier_name {id name : String} (h : serviceIdentifier id = .ok name) :
    serviceIdentifier name = .ok name := by
  obtain ⟨hchars, hidentifier, rfl⟩ := serviceIdentifier_eq_ok_iff_isIdentifier.mp h
  rw [serviceIdentifier_eq_ok_iff_isIdentifier, String.toList_ofList, pascal_pascal hchars]
  refine ⟨fun c hc => ?_, hidentifier, rfl⟩
  exact isIdChar_iff.mpr (.inl (isAsciiAlphanumeric_of_mem_pascal hchars hc))

end Naming

namespace Registry

namespace Run

/-! ## Ids that are held together -/

/-- The id is one of those that are registered. -/
def Holds (run : Run) (id : String) : Prop := id ∈ run.registry.services.map (·.id)

theorem holds_iff {run : Run} {id : String} :
    run.Holds id ↔ ∃ registration, (id, registration) ∈ run.registry.registrations := by
  rw [Holds, map_id_services, Entries.keys, List.mem_map]
  constructor
  · rintro ⟨⟨id, registration⟩, hentry, rfl⟩
    exact ⟨registration, hentry⟩
  · rintro ⟨registration, hentry⟩
    exact ⟨_, hentry, rfl⟩

/-- A call that succeeds adds its id. -/
theorem holds_step_iff {run : Run} {id : String} {options : ServiceOptions} {after : Registry}
    (h : run.registry.register id options = .ok after) {other : String} :
    (run.step (id, options)).Holds other ↔ run.Holds other ∨ other = id := by
  obtain ⟨identifier, -, -, rfl⟩ := register_eq_ok_iff.mp h
  rw [step_of_ok (id, options) h, Holds, Holds, map_id_services, map_id_services, Entries.keys_put]
  split
  next hknown =>
    refine ⟨.inl, ?_⟩
    rintro (hother | rfl)
    · exact hother
    · exact hknown
  next => simp

section Consistent

variable {run : Run} (h : run.Consistent) {id other name : String}
include h

/-- An entry has the name of its id. -/
theorem Consistent.exists_entry (hid : run.Holds id)
    (hname : Naming.serviceIdentifier id = .ok name) :
    ∃ options, (id, ⟨name, options⟩) ∈ run.registry.registrations := by
  obtain ⟨⟨identifier, options⟩, hentry⟩ := holds_iff.mp hid
  have hsame := h.identifier _ hentry
  rw [hname, Except.ok.injEq] at hsame
  exact ⟨options, hsame ▸ hentry⟩

/-- Two ids with one name are not held together. -/
theorem Consistent.eq_of_holds (hid : run.Holds id) (hother : run.Holds other)
    (hname : Naming.serviceIdentifier id = .ok name)
    (hothername : Naming.serviceIdentifier other = .ok name) : other = id := by
  obtain ⟨_, hentry⟩ := h.exists_entry hid hname
  obtain ⟨_, hotherEntry⟩ := h.exists_entry hother hothername
  exact h.unique _ hotherEntry _ hentry rfl

/-- Another id with the name of one that is held collides with that one. -/
theorem Consistent.register_of_holds (hid : run.Holds id)
    (hname : Naming.serviceIdentifier id = .ok name)
    (hother : Naming.serviceIdentifier other = .ok name) (hne : other ≠ id)
    (options : ServiceOptions) :
    run.registry.register other options = .error (.namingCollision other id name) := by
  obtain ⟨idOptions, hentry⟩ := h.exists_entry hid hname
  have hholder : run.registry.holder? other name = some id := by
    cases hfound : run.registry.holder? other name with
    | none => exact absurd (holder?_eq_none_iff.mp hfound _ hentry rfl).symm hne
    | some holder =>
      -- Whoever is found has the name, and so it is the id.
      obtain ⟨entry, hfind, rfl⟩ := Option.map_eq_some_iff.mp hfound
      have hheld := List.find?_some hfind
      rw [Bool.and_eq_true, beq_iff_eq] at hheld
      rw [h.unique _ (List.mem_of_find?_eq_some hfind) _ hentry hheld.2]
  exact register_eq_error_cases.mpr (.inr ⟨name, id, hother, hholder, rfl⟩)

/-- An id can be registered if its name is that of no other id that is held. -/
theorem Consistent.exists_register (hname : Naming.serviceIdentifier id = .ok name)
    (hfree : ∀ other, run.Holds other → Naming.serviceIdentifier other = .ok name → other = id)
    (options : ServiceOptions) : ∃ after, run.registry.register id options = .ok after := by
  have hholder : run.registry.holder? id name = none := by
    refine holder?_eq_none_iff.mpr fun entry hentry heq => ?_
    exact hfree entry.1 (holds_iff.mpr ⟨entry.2, hentry⟩) (heq ▸ h.identifier entry hentry)
  exact ⟨_, register_eq_ok_iff.mpr ⟨name, hname, hholder, rfl⟩⟩

end Consistent

/-- Two ids can be registered one after the other if and only if they have different names. -/
theorem exists_holds_iff {id other name otherName : String}
    (hname : Naming.serviceIdentifier id = .ok name)
    (hother : Naming.serviceIdentifier other = .ok otherName) (hne : other ≠ id) :
    (∃ calls, (ofCalls calls).Holds id ∧ (ofCalls calls).Holds other) ↔ otherName ≠ name := by
  constructor
  · rintro ⟨calls, hid, hheld⟩ rfl
    exact hne ((consistent_ofCalls calls).eq_of_holds hid hheld hname hother)
  · intro hnames
    have hempty : ∀ id, ¬ Holds ⟨empty, []⟩ id := fun _ => List.not_mem_nil
    obtain ⟨_, hfirst⟩ := consistent_empty.exists_register hname
      (fun x hx _ => absurd hx (hempty x)) ⟨none, none, none⟩
    have hone := consistent_step consistent_empty (id, ⟨none, none, none⟩)
    -- The only id that is held has the other name.
    have hfree : ∀ x, (step ⟨empty, []⟩ (id, ⟨none, none, none⟩)).Holds x →
        Naming.serviceIdentifier x = .ok otherName → x = other := by
      intro x hx hxname
      rcases (holds_step_iff hfirst).mp hx with hx | rfl
      · exact absurd hx (hempty x)
      · rw [hname, Except.ok.injEq] at hxname
        exact absurd hxname.symm hnames
    obtain ⟨_, hsecond⟩ := hone.exists_register hother hfree ⟨none, none, none⟩
    refine ⟨[(id, ⟨none, none, none⟩), (other, ⟨none, none, none⟩)], ?_, ?_⟩
    · exact (holds_step_iff hsecond).mpr (.inl ((holds_step_iff hfirst).mpr (.inr rfl)))
    · exact (holds_step_iff hsecond).mpr (.inr rfl)

/-! ## Ids and names -/

/-- **Names**: the name of an id is an id that has itself as its name.  Two ids can be held together
if and only if they have different names.  So an id and its name collide, whichever is registered
first, unless they are the same. -/
theorem canonical_serviceIdentifier {id name : String}
    (h : Naming.serviceIdentifier id = .ok name) :
    Naming.serviceIdentifier name = .ok name ∧
    (∀ other otherName, Naming.serviceIdentifier other = .ok otherName → other ≠ id →
      ((∃ calls, (ofCalls calls).Holds id ∧ (ofCalls calls).Holds other) ↔ otherName ≠ name)) ∧
    (∀ calls options, (ofCalls calls).Holds id →
      (name ≠ id → (ofCalls calls).registry.register name options =
        .error (.namingCollision name id name)) ∧
      (name = id → ∃ after, (ofCalls calls).registry.register name options = .ok after)) ∧
    (∀ calls options, (ofCalls calls).Holds name → name ≠ id →
      (ofCalls calls).registry.register id options = .error (.namingCollision id name name)) := by
  have hname := Naming.serviceIdentifier_name h
  refine ⟨hname, ?_, ?_, ?_⟩
  · intro other otherName hother hne
    exact exists_holds_iff h hother hne
  · intro calls options hid
    have hrun := consistent_ofCalls calls
    refine ⟨fun hne => hrun.register_of_holds hid h hname hne options, ?_⟩
    rintro rfl
    exact hrun.exists_register_known hid options
  · intro calls options hheld hne
    exact (consistent_ofCalls calls).register_of_holds hheld hname h hne.symm options

/-- An id that is registered keeps its name from being registered. -/
theorem canonical_petStore :
    Naming.serviceIdentifier "pet-store" = .ok "PetStore" ∧
    Naming.serviceIdentifier "PetStore" = .ok "PetStore" ∧
    (ofCalls [("pet-store", ⟨none, none, none⟩)]).registry.register "PetStore"
      ⟨none, none, none⟩ = .error (.namingCollision "PetStore" "pet-store" "PetStore") := by
  have hname : Naming.serviceIdentifier "pet-store" = .ok "PetStore" := rfl
  obtain ⟨hcanonical, -, hcollides, -⟩ := canonical_serviceIdentifier hname
  have hheld : (ofCalls [("pet-store", ⟨none, none, none⟩)]).Holds "pet-store" := by
    unfold Holds
    decide
  exact ⟨hname, hcanonical, (hcollides _ _ hheld).1 (by decide)⟩

end Run

end Registry

end ApiToolkit
