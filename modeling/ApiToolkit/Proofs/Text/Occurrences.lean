import ApiToolkit.Text.Search
import Mathlib.Data.List.Infix
/-!
# Replacing the occurrences of a text

A pattern is looked for from left to right.  Where it occurs it is replaced and passed over, and
every other character is kept.

## What is inside

- `Text.replaceAll_append`, `Text.replaceAll_cons`: replacing, occurrence by occurrence.
- `Text.occurrence_induction`: texts, occurrence by occurrence.
- `Text.replaceAll_of_not_occurs`: a text in which the pattern does not occur is kept.
- `Text.count_replaceAll_le`, `Text.count_replaceAll_lt`: characters that the replacement does not
  bring become fewer.
-/

namespace ApiToolkit.Text

/-! ## One occurrence -/

theorem startsWith_iff {start text : List Char} :
    startsWith start text = true ↔ ∃ rest, text = start ++ rest := by
  rw [startsWith, Option.isSome_iff_exists]
  simp only [stripStart?_eq_some_iff]

theorem startsWith_eq_false_iff {start text : List Char} :
    startsWith start text = false ↔ ∀ rest, text ≠ start ++ rest := by
  rw [← Bool.not_eq_true, startsWith_iff, not_exists]

theorem replaceFrom_length (pattern replacement passed rest : List Char) :
    replaceFrom pattern replacement passed.length (passed ++ rest) =
      replaceFrom pattern replacement 0 rest := by
  induction passed with
  | nil => rfl
  | cons c passed ih =>
    rw [List.length_cons, List.cons_append, replaceFrom, ih]

/-- An occurrence at the start is replaced. -/
theorem replaceAll_append {pattern : List Char} (h : pattern ≠ []) (replacement rest : List Char) :
    replaceAll pattern replacement (pattern ++ rest) =
      replacement ++ replaceAll pattern replacement rest := by
  obtain ⟨c, passed, rfl⟩ := List.exists_cons_of_ne_nil h
  have hstart : startsWith (c :: passed) (c :: (passed ++ rest)) = true :=
    startsWith_iff.mpr ⟨rest, rfl⟩
  rw [replaceAll, List.cons_append, replaceFrom, if_pos hstart, List.length_cons,
    Nat.add_sub_cancel, replaceFrom_length]
  rfl

/-- A character at which no occurrence starts is kept. -/
theorem replaceAll_cons {pattern : List Char} (replacement : List Char) {c : Char}
    {rest : List Char} (h : ∀ after, c :: rest ≠ pattern ++ after) :
    replaceAll pattern replacement (c :: rest) = c :: replaceAll pattern replacement rest := by
  rw [replaceAll, replaceFrom, startsWith_eq_false_iff.mpr h]
  rfl

/-! ## All occurrences -/

/-- The ways in which a text begins: at its end, with an occurrence of a pattern, or with a
character at which no occurrence starts. -/
theorem occurrence_induction {pattern : List Char} (hpattern : pattern ≠ [])
    {motive : List Char → Prop} (nil : motive [])
    (occurrence : ∀ rest, motive rest → motive (pattern ++ rest))
    (other : ∀ c rest, (∀ after, c :: rest ≠ pattern ++ after) → motive rest →
      motive (c :: rest)) (text : List Char) : motive text := by
  match text with
  | [] => exact nil
  | c :: rest =>
    by_cases hoccurs : ∃ after, c :: rest = pattern ++ after
    · obtain ⟨after, heq⟩ := hoccurs
      have hshorter : after.length < (c :: rest).length := by
        rw [heq, List.length_append]
        exact Nat.lt_add_of_pos_left (List.length_pos_of_ne_nil hpattern)
      have hafter := occurrence_induction hpattern nil occurrence other after
      rw [heq]
      exact occurrence after hafter
    · rw [not_exists] at hoccurs
      exact other c rest hoccurs (occurrence_induction hpattern nil occurrence other rest)
termination_by text.length
decreasing_by
  · exact hshorter
  · exact Nat.lt_succ_self _

section Pattern

variable {pattern : List Char} (hpattern : pattern ≠ []) (replacement : List Char)
include hpattern

/-- A text in which the pattern does not occur is kept. -/
theorem replaceAll_of_not_occurs {text : List Char} (h : ¬ pattern <:+: text) :
    replaceAll pattern replacement text = text := by
  induction text using occurrence_induction hpattern with
  | nil => rfl
  | occurrence rest ih => exact absurd ⟨[], rest, rfl⟩ h
  | other c rest hno ih =>
    have hrest : ¬ pattern <:+: rest := fun hrest => h (List.infix_cons hrest)
    rw [replaceAll_cons _ hno, ih hrest]

variable {replacement} {d : Char} (hd : d ∉ replacement)
include hd

/-- A character that the replacement does not bring does not become more frequent. -/
theorem count_replaceAll_le (text : List Char) :
    (replaceAll pattern replacement text).count d ≤ text.count d := by
  induction text using occurrence_induction hpattern with
  | nil => exact Nat.le_refl _
  | occurrence rest ih =>
    rw [replaceAll_append hpattern, List.count_append, List.count_append,
      List.count_eq_zero_of_not_mem hd]
    omega
  | other c rest hno ih =>
    rw [replaceAll_cons _ hno, List.count_cons, List.count_cons]
    omega

/-- It becomes less frequent if the pattern has it and occurs. -/
theorem count_replaceAll_lt (hmem : d ∈ pattern) {text : List Char} (h : pattern <:+: text) :
    (replaceAll pattern replacement text).count d < text.count d := by
  induction text using occurrence_induction hpattern with
  | nil =>
    rw [List.infix_nil] at h
    exact absurd h hpattern
  | occurrence rest ih =>
    have hrest := count_replaceAll_le hpattern hd rest
    have hpositive : 0 < pattern.count d := List.count_pos_iff.mpr hmem
    rw [replaceAll_append hpattern, List.count_append, List.count_append,
      List.count_eq_zero_of_not_mem hd]
    omega
  | other c rest hno ih =>
    -- No occurrence starts here, so the pattern occurs in the rest.
    have hrest : pattern <:+: rest := by
      rcases List.infix_cons_iff.mp h with ⟨after, heq⟩ | hrest
      · exact absurd heq.symm (hno after)
      · exact hrest
    rw [replaceAll_cons _ hno, List.count_cons, List.count_cons]
    have hless := ih hrest
    omega

end Pattern

end ApiToolkit.Text
