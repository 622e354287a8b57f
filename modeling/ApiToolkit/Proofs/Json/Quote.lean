import ApiToolkit.Json.Reader
import ApiToolkit.Json.Writer
/-!
# Quoted strings are read back

## What is inside

- `Json.Reader.stringTail?_escapeChar`: what is written for one character is read in one step.
- `Json.Reader.string?_quote`: a string in quotes is read back, whatever follows it.
-/

namespace ApiToolkit.Json.Reader

/-! ## One character -/

theorem hexadecimal?_hexDigit {n : Nat} (h : n < 16) :
    Digit.hexadecimal? (hexDigit n) = some n := by
  revert n
  decide

/-- Two digits after two zeros are enough for a control character. -/
theorem unicodeEscape?_of_lt {n : Nat} (h : n < 0x20) (rest : List Char) :
    unicodeEscape? ('0' :: '0' :: hexDigit (n / 16) :: hexDigit (n % 16) :: rest) =
      some (Char.ofNat n, rest) := by
  have hhigh : Digit.hexadecimal? (hexDigit (n / 16)) = some (n / 16) :=
    hexadecimal?_hexDigit (by omega)
  have hlow : Digit.hexadecimal? (hexDigit (n % 16)) = some (n % 16) :=
    hexadecimal?_hexDigit (by omega)
  have hzero : Digit.hexadecimal? '0' = some 0 := rfl
  have hunit : hexUnit? ('0' :: '0' :: hexDigit (n / 16) :: hexDigit (n % 16) :: rest) =
      some (n, rest) := by
    simp only [hexUnit?, hzero, hhigh, hlow, Option.bind_eq_bind, Option.bind_some]
    congr 2
    omega
  -- The unit is far below the surrogates.
  have hlower : ¬ 0xDC00 ≤ n := by omega
  have hupper : ¬ 0xD800 ≤ n := by omega
  simp [unicodeEscape?, hunit, hlower, hupper]

/-- The characters that are escaped by a letter. -/
def letterEscaped : List Char := ['"', '\\', '\n', '\r', '\t', '\x08', '\x0c']

theorem escapeChar_of_not_mem {c : Char} (h : c ∉ letterEscaped) :
    escapeChar c =
      if c.toNat < 0x20 then
        ['\\', 'u', '0', '0', hexDigit (c.toNat / 16), hexDigit (c.toNat % 16)]
      else [c] := by
  simp only [letterEscaped, List.mem_cons, List.not_mem_nil, or_false, not_or] at h
  obtain ⟨hquote, hsolidus, hfeed, hreturn, htab, hback, hform⟩ := h
  rw [escapeChar, if_neg hquote, if_neg hsolidus, if_neg hfeed, if_neg hreturn, if_neg htab,
    if_neg hback, if_neg hform]

/-- What is written for a character is read as that character, in one step. -/
theorem stringTail?_escapeChar (steps : Nat) (read : List Char) (c : Char) (rest : List Char) :
    stringTail? (steps + 1) read (escapeChar c ++ rest) = stringTail? steps (c :: read) rest := by
  by_cases hletter : c ∈ letterEscaped
  · simp only [letterEscaped, List.mem_cons, List.not_mem_nil, or_false] at hletter
    rcases hletter with rfl | rfl | rfl | rfl | rfl | rfl | rfl <;> rfl
  · rw [escapeChar_of_not_mem hletter]
    have hquote : c ≠ '"' := fun h => hletter (by simp [letterEscaped, h])
    have hsolidus : c ≠ '\\' := fun h => hletter (by simp [letterEscaped, h])
    by_cases hcontrol : c.toNat < 0x20
    · rw [if_pos hcontrol]
      have hstep : ∀ text : List Char, stringTail? (steps + 1) read ('\\' :: 'u' :: text) =
          (unicodeEscape? text).bind fun found => stringTail? steps (found.1 :: read) found.2 :=
        fun text => rfl
      simp only [List.cons_append, List.nil_append]
      rw [hstep, unicodeEscape?_of_lt hcontrol, Option.bind_some, Char.ofNat_toNat]
    · rw [if_neg hcontrol, List.singleton_append]
      show (if c = '"' then _ else if c = '\\' then _ else if c.toNat < 0x20 then _ else _) = _
      rw [if_neg hquote, if_neg hsolidus, if_neg hcontrol]

/-! ## All characters -/

theorem stringTail?_escape {steps : Nat} {text : List Char} (h : text.length < steps)
    (read rest : List Char) :
    stringTail? steps read (text.flatMap escapeChar ++ '"' :: rest) =
      some (String.ofList (read.reverse ++ text), rest) := by
  induction text generalizing steps read with
  | nil =>
    obtain ⟨n, rfl⟩ := Nat.exists_eq_succ_of_ne_zero (Nat.ne_of_gt h)
    rw [List.flatMap_nil, List.nil_append, List.append_nil]
    rfl
  | cons c text ih =>
    obtain ⟨n, rfl⟩ := Nat.exists_eq_succ_of_ne_zero (Nat.ne_of_gt (Nat.zero_lt_of_lt h))
    rw [List.flatMap_cons, List.append_assoc, stringTail?_escapeChar]
    have hlength : text.length < n := by
      rw [List.length_cons] at h
      omega
    rw [ih hlength, List.reverse_cons, List.append_assoc, List.singleton_append]

theorem length_le_escape (text : List Char) :
    text.length ≤ (text.flatMap escapeChar).length := by
  induction text with
  | nil => exact Nat.le_refl _
  | cons c text ih =>
    have hpos : 0 < (escapeChar c).length := by
      unfold escapeChar
      repeat (first | exact Nat.zero_lt_succ _ | split)
    rw [List.flatMap_cons, List.length_append, List.length_cons]
    omega

/-- **Strings**: a string in quotes is read back, and what follows it is left. -/
theorem string?_quote (text rest : List Char) :
    string? (text.flatMap escapeChar ++ '"' :: rest) = some (String.ofList text, rest) := by
  have hlength := length_le_escape text
  have hsteps : text.length < (text.flatMap escapeChar ++ '"' :: rest).length + 1 := by
    rw [List.length_append]
    omega
  exact stringTail?_escape hsteps [] rest

end ApiToolkit.Json.Reader
