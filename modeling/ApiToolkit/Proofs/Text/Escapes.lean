import ApiToolkit.Proofs.Text.Occurrences
import ApiToolkit.Proofs.Text.Octets
/-!
# Texts in which percent signs begin escapes

## What is inside

- `Percent.Escaped`: every percent sign begins an escape.
- `Percent.Escaped.append`, `Percent.escaped_encode`: how such texts come about.
- `Percent.Escaped.replaceAll`: replacing a pattern keeps them, if it begins with no digit.
-/

namespace ApiToolkit.Percent

/-! ## Escapes in a text -/

/-- Whether a text begins with the two digits of an octet. -/
def beginsOctet (text : List Char) : Bool :=
  match text with
  | high :: low :: _ => (Digit.hexadecimal? high).isSome && (Digit.hexadecimal? low).isSome
  | _ => false

/-- Every percent sign begins an escape: two hexadecimal digits follow it. -/
def Escaped (text : List Char) : Prop :=
  ∀ rest, '%' :: rest <:+ text → beginsOctet rest = true

theorem escaped_nil : Escaped [] := by
  intro rest h
  cases List.eq_nil_of_suffix_nil h

theorem escaped_cons {c : Char} {rest : List Char} :
    Escaped (c :: rest) ↔ (c = '%' → beginsOctet rest = true) ∧ Escaped rest := by
  constructor
  · intro h
    refine ⟨?_, fun after hafter => h after (hafter.trans (List.suffix_cons c rest))⟩
    rintro rfl
    exact h rest (List.suffix_refl _)
  · rintro ⟨hfirst, hrest⟩ after hafter
    rcases List.suffix_cons_iff.mp hafter with heq | hafter
    · obtain ⟨rfl, rfl⟩ := List.cons.inj heq
      exact hfirst rfl
    · exact hrest after hafter

instance instDecidableEscaped : (text : List Char) → Decidable (Escaped text)
  | [] => isTrue escaped_nil
  | _ :: rest =>
    have := instDecidableEscaped rest
    decidable_of_iff' _ escaped_cons

theorem exists_of_beginsOctet {text : List Char} (h : beginsOctet text = true) :
    ∃ high low rest, text = high :: low :: rest ∧
      (Digit.hexadecimal? high).isSome = true ∧ (Digit.hexadecimal? low).isSome = true := by
  unfold beginsOctet at h
  split at h
  · rw [Bool.and_eq_true] at h
    exact ⟨_, _, _, rfl, h⟩
  · cases h

theorem beginsOctet_append {front : List Char} (h : beginsOctet front = true)
    (text : List Char) : beginsOctet (front ++ text) = true := by
  obtain ⟨high, low, rest, rfl, hdigits⟩ := exists_of_beginsOctet h
  simpa [beginsOctet] using hdigits

/-! ## How escaped texts come about -/

theorem Escaped.append {front text : List Char} (hfront : Escaped front) (htext : Escaped text) :
    Escaped (front ++ text) := by
  induction front with
  | nil => exact htext
  | cons c front ih =>
    obtain ⟨hfirst, hrest⟩ := escaped_cons.mp hfront
    rw [List.cons_append, escaped_cons]
    exact ⟨fun hc => beginsOctet_append (hfirst hc) text, ih hrest⟩

theorem Escaped.of_append {front text : List Char} (h : Escaped (front ++ text)) :
    Escaped text :=
  fun rest hrest => h rest (hrest.trans (List.suffix_append front text))

theorem escaped_flatMap {α : Type} {f : α → List Char} {items : List α}
    (h : ∀ item ∈ items, Escaped (f item)) : Escaped (items.flatMap f) := by
  induction items with
  | nil => exact escaped_nil
  | cons item rest ih =>
    obtain ⟨hitem, hrest⟩ := List.forall_mem_cons.mp h
    rw [List.flatMap_cons]
    exact hitem.append (ih hrest)

theorem escaped_escape (octet : UInt8) : Escaped (escape octet) := by
  have hoctet : octet.toNat < 256 := octet.toNat_lt
  have hhigh := hexadecimal?_hexDigit (n := octet.toNat / 16) (by omega)
  have hlow := hexadecimal?_hexDigit (n := octet.toNat % 16) (by omega)
  -- A digit is no percent sign.
  have hdigit : ∀ {n : Nat}, Digit.hexadecimal? (hexDigit n) = some n → hexDigit n ≠ '%' := by
    intro n hn heq
    rw [heq] at hn
    cases hn
  have hoctetBegins :
      beginsOctet [hexDigit (octet.toNat / 16), hexDigit (octet.toNat % 16)] = true := by
    simp [beginsOctet, hhigh, hlow]
  rw [escape, escaped_cons, escaped_cons, escaped_cons]
  exact ⟨fun _ => hoctetBegins, fun h => absurd h (hdigit hhigh),
    fun h => absurd h (hdigit hlow), escaped_nil⟩

/-- What is written for a text is escaped, if percent signs do not stand for themselves. -/
theorem escaped_encode {keeps : Char → Bool} (hpercent : keeps '%' = false) (text : List Char) :
    Escaped (encode keeps text) := by
  refine escaped_flatMap fun c _ => ?_
  unfold encodeChar
  split
  next hkept =>
    have hne : c ≠ '%' := by
      rintro rfl
      simp [hpercent] at hkept
    exact escaped_cons.mpr ⟨fun h => absurd h hne, escaped_nil⟩
  next => exact escaped_flatMap fun octet _ => escaped_escape octet

/-! ## Replacing -/

section Pattern

variable {first : Char} (hfirst : Digit.hexadecimal? first = none) (more replacement : List Char)
include hfirst

/-- A digit is kept where a pattern that begins with no digit is replaced. -/
theorem replaceAll_digit {digit : Char} (hdigit : (Digit.hexadecimal? digit).isSome = true)
    (rest : List Char) :
    Text.replaceAll (first :: more) replacement (digit :: rest) =
      digit :: Text.replaceAll (first :: more) replacement rest := by
  refine Text.replaceAll_cons _ fun after heq => ?_
  obtain ⟨rfl, -⟩ := List.cons.inj heq
  rw [hfirst] at hdigit
  cases hdigit

theorem beginsOctet_replaceAll {text : List Char} (h : beginsOctet text = true) :
    beginsOctet (Text.replaceAll (first :: more) replacement text) = true := by
  obtain ⟨high, low, rest, rfl, hhigh, hlow⟩ := exists_of_beginsOctet h
  rw [replaceAll_digit hfirst more replacement hhigh, replaceAll_digit hfirst more replacement hlow,
    beginsOctet, hhigh, hlow]
  rfl

/-- **Replacing**: escapes are neither cut through nor opened by a pattern that begins with no
digit. -/
theorem Escaped.replaceAll {replacement : List Char} (hreplacement : Escaped replacement)
    {text : List Char} (htext : Escaped text) :
    Escaped (Text.replaceAll (first :: more) replacement text) := by
  have hpattern : first :: more ≠ [] := List.cons_ne_nil _ _
  induction text using Text.occurrence_induction hpattern with
  | nil => exact escaped_nil
  | occurrence rest ih =>
    rw [Text.replaceAll_append hpattern]
    exact hreplacement.append (ih htext.of_append)
  | other c rest hno ih =>
    obtain ⟨hc, hrest⟩ := escaped_cons.mp htext
    rw [Text.replaceAll_cons _ hno, escaped_cons]
    exact ⟨fun heq => beginsOctet_replaceAll hfirst more replacement (hc heq), ih hrest⟩

end Pattern

end ApiToolkit.Percent
