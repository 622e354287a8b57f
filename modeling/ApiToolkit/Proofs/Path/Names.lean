import ApiToolkit.Proofs.Path.Insertion
/-!
# The names in a template

`Path.parameterNames` reads a template once and remembers what came after the last opening brace.
It finds a name at every place where one stands in braces, whether or not the braces of the
template have partners.

## What is inside

- `Path.nameAt?`, `Path.nameAt?_eq_some_iff`: the name in braces at the start of a text.
- `Path.namesFrom_eq`: what is still to be found while a template is read.
- `Path.mem_parameterNames_iff`: which names are found.
- `Path.parameterNames_and_resolve`: the names found are those that parameters are written for.
-/

namespace ApiToolkit.Path

/-! ## One place -/

/-- The name that stands in braces at the start of a text, unless it is empty. -/
def nameAt? (text : List Char) : Option (List Char) :=
  match text with
  | [] => none
  | c :: rest =>
    if c = '{' then ((closing? rest).map (·.1)).filter (· ≠ []) else none

theorem nameAt?_eq_some_iff {text name : List Char} :
    nameAt? text = some name ↔ name ≠ [] ∧ BraceFree name ∧ placeholder name <+: text := by
  cases text with
  | nil => simp [nameAt?, placeholder]
  | cons c rest =>
    rw [nameAt?]
    split
    next hopen =>
      subst hopen
      have hread : (∃ after, closing? rest = some (name, after)) ↔
          BraceFree name ∧ placeholder name <+: '{' :: rest := by
        simp only [closing?_eq_some_iff, List.IsPrefix, placeholder_append, List.cons.injEq,
          true_and]
        exact ⟨fun ⟨after, heq, hname⟩ => ⟨hname, after, heq.symm⟩,
          fun ⟨hname, after, heq⟩ => ⟨after, heq.symm, hname⟩⟩
      rw [Option.filter_eq_some_iff, Option.map_eq_some_iff, ← hread]
      simp [and_comm]
    next hopen =>
      refine iff_of_false (by simp) ?_
      rintro ⟨-, -, after, heq⟩
      rw [placeholder_append] at heq
      exact hopen (List.cons.inj heq).1.symm

/-! ## The scan -/

/-- The name that is being read, if a brace closes it.  `current` holds its characters so far, the
last one first. -/
def pending? (current : Option (List Char)) (text : List Char) : Option (List Char) :=
  current.bind fun before =>
    ((closing? text).map fun read => before.reverse ++ read.1).filter (· ≠ [])

theorem pending?_close (current : Option (List Char)) (rest : List Char) :
    pending? current ('}' :: rest) = (current.map List.reverse).filter (· ≠ []) := by
  cases current <;> simp [pending?, closing?]

/-- A name goes on with any character that is no brace. -/
theorem pending?_char {c : Char} (hopen : c ≠ '{') (hclose : c ≠ '}')
    (current : Option (List Char)) (rest : List Char) :
    pending? current (c :: rest) = pending? (current.map (c :: ·)) rest := by
  cases current with
  | none => rfl
  | some before =>
    rw [pending?, pending?, Option.map_some, Option.bind_some, Option.bind_some, closing?,
      if_neg hclose, if_neg hopen, Option.map_map]
    simp [Function.comp_def]

theorem namesFrom_open (current : Option (List Char)) (rest : List Char) :
    namesFrom current ('{' :: rest) = namesFrom (some []) rest := by
  rw [namesFrom.eq_def]
  simp only [if_true]

theorem namesFrom_close (current : Option (List Char)) (rest : List Char) :
    namesFrom current ('}' :: rest) =
      ((current.map List.reverse).filter (· ≠ [])).toList ++ namesFrom none rest := by
  rw [namesFrom.eq_def]
  match current with
  | none => rfl
  | some [] => rfl
  | some (last :: before) => simp [Option.filter_some]

theorem namesFrom_char {c : Char} (hopen : c ≠ '{') (hclose : c ≠ '}')
    (current : Option (List Char)) (rest : List Char) :
    namesFrom current (c :: rest) = namesFrom (current.map (c :: ·)) rest := by
  rw [namesFrom.eq_def]
  simp only [if_neg hopen, if_neg hclose]

/-- What is found from here on: the name that is being read, and the names at all later places. -/
theorem namesFrom_eq (current : Option (List Char)) (text : List Char) :
    namesFrom current text = (pending? current text).toList ++ text.tails.filterMap nameAt? := by
  induction text generalizing current with
  | nil => cases current <;> simp [namesFrom, pending?, closing?, nameAt?]
  | cons c rest ih =>
    rw [List.tails_cons, List.filterMap_cons]
    by_cases hopen : c = '{'
    · -- The name that was being read is given up for the one that begins here.
      subst hopen
      have hgiven : pending? current ('{' :: rest) = none := by
        cases current <;> simp [pending?, closing?]
      have hbegun : pending? (some []) rest = nameAt? ('{' :: rest) := by
        simp [pending?, nameAt?]
      rw [namesFrom_open, ih, hbegun, hgiven]
      cases nameAt? ('{' :: rest) <;> rfl
    have hat : nameAt? (c :: rest) = none := by rw [nameAt?, if_neg hopen]
    rw [hat]
    by_cases hclose : c = '}'
    · subst hclose
      rw [namesFrom_close, ih, pending?_close]
      rfl
    · rw [namesFrom_char hopen hclose, ih, pending?_char hopen hclose]

/-- The names are found from left to right, one at every place where a name stands in braces. -/
theorem parameterNames_eq (template : List Char) :
    parameterNames template = template.tails.filterMap nameAt? := by
  rw [parameterNames, namesFrom_eq]
  rfl

theorem mem_parameterNames_iff {template name : List Char} :
    name ∈ parameterNames template ↔
      name ≠ [] ∧ BraceFree name ∧ placeholder name <:+: template := by
  rw [parameterNames_eq, List.mem_filterMap]
  simp only [nameAt?_eq_some_iff, List.mem_tails, List.infix_iff_prefix_suffix]
  constructor
  · rintro ⟨text, hsuffix, hname, hfree, hprefix⟩
    exact ⟨hname, hfree, text, hprefix, hsuffix⟩
  · rintro ⟨hname, hfree, text, hprefix, hsuffix⟩
    exact ⟨text, hsuffix, hname, hfree, hprefix⟩

/-! ## Names and parameters -/

/-- **Names**: the names of a template are those that stand in braces in it, from left to right and
each at every place, and a template has a place for some parameter exactly if the name of one is
among them. -/
theorem parameterNames_and_resolve (template : List Char) :
    parameterNames template = template.tails.filterMap nameAt? ∧
    (∀ text name, nameAt? text = some name ↔
      name ≠ [] ∧ BraceFree name ∧ placeholder name <+: text) ∧
    (∀ name, name ∈ parameterNames template ↔
      name ≠ [] ∧ BraceFree name ∧ placeholder name <:+: template) ∧
    ∀ parameters : Entries Json,
      (∀ name ∈ parameters.keys, name ≠ "" ∧ BraceFree name.toList) →
      (resolve template parameters ≠ template ↔
        ∃ name ∈ parameters.keys, name.toList ∈ parameterNames template) := by
  refine ⟨parameterNames_eq template, fun _ _ => nameAt?_eq_some_iff,
    fun _ => mem_parameterNames_iff, ?_⟩
  intro parameters hkeys
  have hplace : ∀ name ∈ parameters.keys,
      (placeholder name.toList <:+: template ↔ name.toList ∈ parameterNames template) := by
    intro name hname
    obtain ⟨hne, hfree⟩ := hkeys name hname
    have hnonempty : name.toList ≠ [] := fun h => hne (String.toList_eq_nil_iff.mp h)
    rw [mem_parameterNames_iff]
    exact ⟨fun h => ⟨hnonempty, hfree, h⟩, fun h => h.2.2⟩
  rw [Ne, resolve_eq_self_iff]
  push Not
  exact exists_congr fun name => and_congr_right fun hname => hplace name hname

/-- A template with a brace within braces, empty braces, a name twice and a brace that stays open. -/
def brokenTemplate : List Char := "/\x7ba{b}\x7d/{}{b}/{c d}/\x7bx".toList

theorem parameterNames_brokenTemplate :
    parameterNames brokenTemplate = ["b".toList, "b".toList, "c d".toList] ∧
    (∀ name ∈ Entries.keys [("x", Json.null), ("c d", .null)],
      name ≠ "" ∧ BraceFree name.toList) ∧
    resolve brokenTemplate [("x", .null), ("c d", .null)] ≠ brokenTemplate ∧
    ¬ resolve brokenTemplate [("x", .null), ("a", .null)] ≠ brokenTemplate := by
  obtain ⟨hnames, -, -, hresolve⟩ := parameterNames_and_resolve brokenTemplate
  have hkeys : ∀ name ∈ Entries.keys [("x", Json.null), ("c d", .null)],
      name ≠ "" ∧ BraceFree name.toList := by decide
  have hothers : ∀ name ∈ Entries.keys [("x", Json.null), ("a", .null)],
      name ≠ "" ∧ BraceFree name.toList := by decide
  exact ⟨hnames, hkeys, (hresolve _ hkeys).mpr ⟨"c d", by decide, by decide⟩,
    fun h => absurd ((hresolve _ hothers).mp h) (by decide)⟩

end ApiToolkit.Path
