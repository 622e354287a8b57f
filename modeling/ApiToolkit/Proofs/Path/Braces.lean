import ApiToolkit.Path.Template
import Mathlib.Tactic.Convert
import Mathlib.Tactic.Tauto
/-!
# Braces in templates

A name stands in braces, and a brace that another one follows before it is closed opens no name.
Where no brace is opened between another one and its partner, a template is read brace by brace.

## What is inside

- `Path.BraceFree`, `Path.closing?`: names in braces.
- `Path.template_induction`: templates, name by name.
- `Path.Balanced`, `Path.Unnested`: templates without nested braces.
- `Path.isUnnested`, `Path.unnested_iff`: how they are told.
-/

namespace ApiToolkit.Path

/-! ## Names in braces -/

/-- A text without braces. -/
def BraceFree (text : List Char) : Prop := '{' ∉ text ∧ '}' ∉ text

instance (text : List Char) : Decidable (BraceFree text) := inferInstanceAs (Decidable (_ ∧ _))

theorem braceFree_cons {c : Char} {text : List Char} :
    BraceFree (c :: text) ↔ (c ≠ '{' ∧ c ≠ '}') ∧ BraceFree text := by
  simp only [BraceFree, List.mem_cons, not_or, ne_comm (a := c)]
  tauto

/-- The name that the brace before a text opens, and what follows the brace that closes it.  A brace
that another one follows before it is closed opens no name. -/
def closing? (text : List Char) : Option (List Char × List Char) :=
  match text with
  | [] => none
  | c :: rest =>
    if c = '}' then some ([], rest)
    else if c = '{' then none
    else (closing? rest).map fun (name, after) => (c :: name, after)

theorem closing?_eq_some_iff {text name after : List Char} :
    closing? text = some (name, after) ↔ text = name ++ '}' :: after ∧ BraceFree name := by
  induction text generalizing name with
  | nil => simp [closing?]
  | cons c rest ih =>
    rw [closing?]
    split
    next hclose =>
      cases name with
      | nil => simp [hclose, BraceFree]
      | cons d name => simp [braceFree_cons, hclose]; grind
    next hclose =>
      split
      next hopen =>
        cases name with
        | nil => simp [hopen]
        | cons d name => simp [braceFree_cons, hopen]; grind
      next hopen =>
        cases name with
        | nil => simp [hclose]
        | cons d name =>
          simp only [Option.map_eq_some_iff, Prod.exists, Prod.mk.injEq, braceFree_cons]
          grind

theorem closing?_eq_none_iff {text : List Char} :
    closing? text = none ↔ ∀ name after, BraceFree name → text ≠ name ++ '}' :: after := by
  rw [Option.eq_none_iff_forall_ne_some]
  simp only [ne_eq, Prod.forall, closing?_eq_some_iff, not_and]
  exact ⟨fun h name after hname heq => h name after heq hname,
    fun h name after heq hname => h name after hname heq⟩

/-- Characters without braces may stand before. -/
theorem closing?_append {front : List Char} (h : BraceFree front) (text : List Char) :
    closing? (front ++ text) =
      (closing? text).map fun read => (front ++ read.1, read.2) := by
  induction front with
  | nil => simp
  | cons c front ih =>
    obtain ⟨⟨hopen, hclose⟩, hfront⟩ := braceFree_cons.mp h
    rw [List.cons_append, closing?, if_neg hclose, if_neg hopen, ih hfront, Option.map_map]
    rfl

/-- An opening brace ends the search, so what comes after it does not matter. -/
theorem closing?_append_open (text rest : List Char) :
    closing? (text ++ '{' :: rest) =
      (closing? text).map fun read => (read.1, read.2 ++ '{' :: rest) := by
  induction text with
  | nil => rfl
  | cons c text ih =>
    rw [List.cons_append, closing?, closing?, ih]
    split
    · rfl
    · split
      · rfl
      · rw [Option.map_map, Option.map_map]
        rfl

theorem length_lt_of_closing? {text name after : List Char}
    (h : closing? text = some (name, after)) : after.length < text.length := by
  obtain ⟨rfl, -⟩ := closing?_eq_some_iff.mp h
  simp only [List.length_append, List.length_cons]
  omega

theorem placeholder_append (name after : List Char) :
    placeholder name ++ after = '{' :: (name ++ '}' :: after) := by
  simp [placeholder]

/-- The brace that opens one name in braces opens no other one. -/
theorem placeholder_append_inj {other after rest : List Char} (hname : BraceFree name)
    (hother : BraceFree other) (h : placeholder name ++ after = placeholder other ++ rest) :
    name = other := by
  rw [placeholder_append, placeholder_append, List.cons.injEq] at h
  have hread : closing? (name ++ '}' :: after) = some (name, after) :=
    closing?_eq_some_iff.mpr ⟨rfl, hname⟩
  have hreadOther : closing? (name ++ '}' :: after) = some (other, rest) :=
    closing?_eq_some_iff.mpr ⟨h.2, hother⟩
  rw [hread, Option.some.injEq, Prod.mk.injEq] at hreadOther
  exact hreadOther.1

/-- The ways in which a template begins: at its end, with a name in braces, with a brace that opens
no name, or with another character. -/
theorem template_induction {motive : List Char → Prop} (nil : motive [])
    (name : ∀ name after, BraceFree name → motive after → motive (placeholder name ++ after))
    (open' : ∀ rest, closing? rest = none → motive rest → motive ('{' :: rest))
    (other : ∀ c rest, c ≠ '{' → motive rest → motive (c :: rest)) (template : List Char) :
    motive template := by
  match template with
  | [] => exact nil
  | c :: rest =>
    have hrest := template_induction nil name open' other rest
    by_cases hopen : c = '{'
    · subst hopen
      match h : closing? rest with
      | none => exact open' rest h hrest
      | some (read, after) =>
        have := length_lt_of_closing? h
        obtain ⟨rfl, hread⟩ := closing?_eq_some_iff.mp h
        have hafter := name read after hread (template_induction nil name open' other after)
        simpa [placeholder] using hafter
    · exact other c rest hopen hrest
termination_by template.length

/-! ## Nested braces -/

/-- Texts in which every brace has a partner. -/
inductive Balanced : List Char → Prop where
  | nil : Balanced []
  | char {c : Char} {rest : List Char} (opening : c ≠ '{') (closing : c ≠ '}')
      (more : Balanced rest) : Balanced (c :: rest)
  | braces {inner rest : List Char} (inside : Balanced inner) (more : Balanced rest) :
      Balanced ('{' :: (inner ++ '}' :: rest))

/-- No brace is opened between another one and its partner. -/
def Unnested (template : List Char) : Prop :=
  ∀ before inner after, template = before ++ '{' :: (inner ++ '}' :: after) → Balanced inner →
    '{' ∉ inner

theorem Balanced.append {first second : List Char} (h : Balanced first)
    (hsecond : Balanced second) : Balanced (first ++ second) := by
  induction h with
  | nil => exact hsecond
  | char opening closing more ih => exact .char opening closing ih
  | braces inside more _ ih =>
    rw [List.cons_append, List.append_assoc, List.cons_append]
    exact .braces inside ih

/-- The marks once another brace was opened. -/
def markAll (opened : List Bool) : List Bool := opened.map fun _ => true

@[simp] theorem markAll_markAll (opened : List Bool) :
    markAll (markAll opened) = markAll opened := by
  simp [markAll]

/-- Reads a template brace by brace.  There is a mark for every open brace, the innermost first:
whether another brace was opened after it.  A brace is closed only without a mark. -/
def isUnnested (opened : List Bool) (template : List Char) : Bool :=
  match template with
  | [] => true
  | c :: rest =>
    if c = '{' then isUnnested (false :: markAll opened) rest
    else if c = '}' then
      match opened with
      | [] => isUnnested [] rest
      | mark :: outer => !mark && isUnnested outer rest
    else isUnnested opened rest

theorem isUnnested_open (opened : List Bool) (rest : List Char) :
    isUnnested opened ('{' :: rest) = isUnnested (false :: markAll opened) rest := by
  simp [isUnnested]

theorem isUnnested_close (mark : Bool) (outer : List Bool) (rest : List Char) :
    isUnnested (mark :: outer) ('}' :: rest) = (!mark && isUnnested outer rest) := by
  rw [isUnnested, if_neg (by decide), if_pos rfl]

theorem isUnnested_close_nil (rest : List Char) :
    isUnnested [] ('}' :: rest) = isUnnested [] rest := by
  rw [isUnnested, if_neg (by decide), if_pos rfl]

theorem isUnnested_char {c : Char} (hopen : c ≠ '{') (hclose : c ≠ '}') (opened : List Bool)
    (rest : List Char) : isUnnested opened (c :: rest) = isUnnested opened rest := by
  rw [isUnnested.eq_def]
  simp only [if_neg hopen, if_neg hclose]

theorem isUnnested_append_of_braceFree {front : List Char} (h : BraceFree front)
    (opened : List Bool) (text : List Char) :
    isUnnested opened (front ++ text) = isUnnested opened text := by
  induction front with
  | nil => rfl
  | cons c front ih =>
    obtain ⟨⟨hopen, hclose⟩, hfront⟩ := braceFree_cons.mp h
    rw [List.cons_append, isUnnested_char hopen hclose, ih hfront]

/-- A name in braces leaves a mark on the braces that are open around it. -/
theorem isUnnested_placeholder {name : List Char} (h : BraceFree name) (opened : List Bool)
    (after : List Char) :
    isUnnested opened (placeholder name ++ after) = isUnnested (markAll opened) after := by
  have hstart : placeholder name ++ after = '{' :: (name ++ '}' :: after) := by
    simp [placeholder]
  rw [hstart, isUnnested_open, isUnnested_append_of_braceFree h, isUnnested_close]
  rfl

/-- Whatever was read, the rest is read with some marks. -/
theorem exists_isUnnested_of_append {opened : List Bool} {before rest : List Char}
    (h : isUnnested opened (before ++ rest) = true) :
    ∃ marks, isUnnested marks rest = true := by
  induction before generalizing opened with
  | nil => exact ⟨opened, h⟩
  | cons c before ih =>
    rw [List.cons_append] at h
    by_cases hopen : c = '{'
    · rw [hopen, isUnnested_open] at h
      exact ih h
    by_cases hclose : c = '}'
    · subst hclose
      cases opened with
      | nil =>
        rw [isUnnested_close_nil] at h
        exact ih h
      | cons mark outer =>
        rw [isUnnested_close, Bool.and_eq_true] at h
        exact ih h.2
    · rw [isUnnested_char hopen hclose] at h
      exact ih h

/-- Reading a balanced text leaves the open braces open, with marks if the text has braces. -/
theorem isUnnested_of_balanced {inner : List Char} (hinner : Balanced inner) {opened : List Bool}
    {rest : List Char} (h : isUnnested opened (inner ++ rest) = true) :
    isUnnested (if '{' ∈ inner then markAll opened else opened) rest = true := by
  induction hinner generalizing opened rest with
  | nil => simpa using h
  | @char c text opening closing more ih =>
    rw [List.cons_append, isUnnested_char opening closing] at h
    simpa [opening.symm] using ih h
  | @braces inner text inside more ihInside ihMore =>
    rw [List.cons_append, List.append_assoc, List.cons_append, isUnnested_open] at h
    have hclose := ihInside h
    rw [if_pos (List.mem_cons_self ..)]
    split at hclose
    next =>
      -- The brace that is closed here would have a mark.
      rw [markAll, List.map_cons, isUnnested_close] at hclose
      cases hclose
    next =>
      rw [isUnnested_close] at hclose
      simpa using ihMore hclose

/-- How the marks come about: behind every open brace stands a balanced text. -/
inductive Opened : List Char → List Bool → Prop where
  | outside (text : List Char) : Opened text []
  | inside {before inner : List Char} {marks : List Bool} (outer : Opened before marks)
      (balanced : Balanced inner) :
      Opened (before ++ '{' :: inner) (decide ('{' ∈ inner) :: markAll marks)

/-- One more balanced text. -/
theorem Opened.append {before text : List Char} {marks : List Bool} (h : Opened before marks)
    (htext : Balanced text) :
    Opened (before ++ text) (if '{' ∈ text then markAll marks else marks) := by
  cases h with
  | outside before =>
    simp only [markAll, List.map_nil, ite_self]
    exact .outside _
  | @inside before inner marks outer balanced =>
    have happend := Opened.inside outer (balanced.append htext)
    rw [List.append_assoc, List.cons_append]
    convert happend using 1
    by_cases hmem : '{' ∈ text <;> simp [markAll, hmem]

theorem isUnnested_of_opened {read rest : List Char} {marks : List Bool} (hread : Opened read marks)
    (h : Unnested (read ++ rest)) : isUnnested marks rest = true := by
  induction rest generalizing read marks with
  | nil => rw [isUnnested]
  | cons c rest ih =>
    rw [List.append_cons] at h
    by_cases hopen : c = '{'
    · subst hopen
      rw [isUnnested_open]
      refine ih ?_ h
      simpa using Opened.inside hread .nil
    by_cases hclose : c = '}'
    · subst hclose
      cases hread with
      | outside text =>
        rw [isUnnested_close_nil]
        exact ih (.outside _) h
      | @inside before inner marks outer balanced =>
        have hnot : '{' ∉ inner := h before inner rest (by simp) balanced
        rw [isUnnested_close]
        simp only [hnot, decide_false, Bool.not_false, Bool.true_and]
        -- With its partner, the brace is a balanced text behind the braces around it.
        refine ih ?_ h
        have hbraces := outer.append (Balanced.braces balanced .nil)
        simpa using hbraces
    · rw [isUnnested_char hopen hclose]
      refine ih ?_ h
      have hchar := hread.append (Balanced.char hopen hclose .nil)
      simpa [Ne.symm hopen] using hchar

theorem unnested_iff {template : List Char} :
    Unnested template ↔ isUnnested [] template = true := by
  constructor
  · exact fun h => isUnnested_of_opened (.outside []) h
  · intro h before inner after heq hinner hmem
    rw [heq] at h
    obtain ⟨marks, hmarks⟩ := exists_isUnnested_of_append h
    rw [isUnnested_open] at hmarks
    have hclose := isUnnested_of_balanced hinner hmarks
    rw [if_pos hmem, markAll, List.map_cons, isUnnested_close] at hclose
    cases hclose

instance (template : List Char) : Decidable (Unnested template) :=
  decidable_of_iff _ unnested_iff.symm

theorem Unnested.of_append {before rest : List Char} (h : Unnested (before ++ rest)) :
    Unnested before ∧ Unnested rest := by
  constructor
  · intro front inner after heq
    refine h front inner (after ++ rest) ?_
    simp [heq]
  · intro front inner after heq
    refine h (before ++ front) inner after ?_
    simp [heq]

/-- A mark that is taken away does no harm. -/
theorem isUnnested_of_markAll {opened : List Bool} {text : List Char}
    (h : isUnnested (markAll opened) text = true) : isUnnested opened text = true := by
  induction text generalizing opened with
  | nil => exact h
  | cons c rest ih =>
    by_cases hopen : c = '{'
    · subst hopen
      rw [isUnnested_open, markAll_markAll] at h
      rw [isUnnested_open]
      exact h
    by_cases hclose : c = '}'
    · subst hclose
      cases opened with
      | nil => exact h
      | cons mark outer =>
        rw [markAll, List.map_cons, isUnnested_close] at h
        cases h
    · rw [isUnnested_char hopen hclose] at h ⊢
      exact ih h

end ApiToolkit.Path
