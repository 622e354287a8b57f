import ApiToolkit.Path.Component
import ApiToolkit.Proofs.Text.Octets
/-!
# Components stand for their texts

A component keeps unreserved characters and writes the octets of all others as escapes.  Percent
signs are not unreserved, so a percent sign in a component always begins an escape, and what looks
like an escape in a text is escaped again.

## What is inside

- `Path.decode_encodeComponent`: the octets that a component stands for.
- `Path.ComponentText`: texts of letters, digits, marks and escapes.
- `Path.componentText_encodeComponent`: components are such texts.
- `Path.encodeComponent_invertible`: a text is read back from its component.
-/

namespace ApiToolkit.Path

/-! ## What components consist of -/

/-- The characters that stand for themselves are the letters and digits of ASCII and nine marks. -/
theorem isUnreserved_iff {c : Char} :
    isUnreserved c = true ↔
      Letter.isAsciiAlphanumeric c = true ∨
        c ∈ ['-', '_', '.', '!', '~', '*', '\'', '(', ')'] := by
  rw [isUnreserved, Bool.or_eq_true, List.contains_iff_mem]

/-- The digits that escapes are written with. -/
def isEscapeDigit (c : Char) : Bool := Letter.isAsciiDigit c || ('A' ≤ c && c ≤ 'F')

/-- Texts of letters, digits, marks and escapes. -/
inductive ComponentText : List Char → Prop
  | nil : ComponentText []
  | alphanumeric {c : Char} {rest : List Char} (hc : Letter.isAsciiAlphanumeric c = true)
      (hrest : ComponentText rest) : ComponentText (c :: rest)
  | mark {c : Char} {rest : List Char} (hc : c ∈ ['-', '_', '.', '!', '~', '*', '\'', '(', ')'])
      (hrest : ComponentText rest) : ComponentText (c :: rest)
  | escape {high low : Char} {rest : List Char} (hhigh : isEscapeDigit high = true)
      (hlow : isEscapeDigit low = true) (hrest : ComponentText rest) :
      ComponentText ('%' :: high :: low :: rest)

theorem ComponentText.append {front text : List Char} (hfront : ComponentText front)
    (htext : ComponentText text) : ComponentText (front ++ text) := by
  induction hfront with
  | nil => exact htext
  | alphanumeric hc _ ih => exact .alphanumeric hc ih
  | mark hc _ ih => exact .mark hc ih
  | escape hhigh hlow _ ih => exact .escape hhigh hlow ih

theorem componentText_flatMap {α : Type} {f : α → List Char} {items : List α}
    (h : ∀ item ∈ items, ComponentText (f item)) : ComponentText (items.flatMap f) := by
  induction items with
  | nil => exact .nil
  | cons item rest ih =>
    obtain ⟨hitem, hrest⟩ := List.forall_mem_cons.mp h
    rw [List.flatMap_cons]
    exact hitem.append (ih hrest)

theorem isEscapeDigit_hexDigit {n : Nat} (h : n < 16) :
    isEscapeDigit (Percent.hexDigit n) = true := by
  revert n
  decide

theorem componentText_escape (octet : UInt8) : ComponentText (Percent.escape octet) := by
  have hoctet : octet.toNat < 256 := octet.toNat_lt
  have hhigh := isEscapeDigit_hexDigit (n := octet.toNat / 16) (by omega)
  have hlow := isEscapeDigit_hexDigit (n := octet.toNat % 16) (by omega)
  exact .escape hhigh hlow .nil

theorem componentText_encodeComponent (text : List Char) :
    ComponentText (encodeComponent text) := by
  refine componentText_flatMap fun c _ => ?_
  unfold Percent.encodeChar
  split
  next hkept =>
    rcases isUnreserved_iff.mp (Bool.and_eq_true_iff.mp hkept).2 with hletter | hmark
    · exact .alphanumeric hletter .nil
    · exact .mark hmark .nil
  next => exact componentText_flatMap fun octet _ => componentText_escape octet

/-! ## What components stand for -/

theorem encodeComponent_append (text more : List Char) :
    encodeComponent (text ++ more) = encodeComponent text ++ encodeComponent more :=
  List.flatMap_append

theorem decode_encodeComponent (text : List Char) :
    Percent.decode (encodeComponent text) = text.flatMap Utf8.encodeChar :=
  Percent.decode_encode (by decide) text

theorem encodeComponent_inj {text other : List Char} :
    encodeComponent text = encodeComponent other ↔ text = other := by
  refine ⟨fun h => Utf8.encodeChars_inj ?_, congrArg encodeComponent⟩
  rw [← decode_encodeComponent, h, decode_encodeComponent]

/-- **Components**: a component is made of letters, digits, marks and escapes, and the octets that
it stands for are read as the text it was made from.  Texts are encoded piece by piece, and
different texts have different components. -/
theorem encodeComponent_invertible (text : List Char) :
    Utf8.decode? (Percent.decode (encodeComponent text)) = some (String.ofList text) ∧
    ComponentText (encodeComponent text) ∧
    (∀ more, encodeComponent (text ++ more) = encodeComponent text ++ encodeComponent more) ∧
    (∀ other, encodeComponent text = encodeComponent other ↔ text = other) := by
  refine ⟨?_, componentText_encodeComponent text, encodeComponent_append text,
    fun _ => encodeComponent_inj⟩
  rw [decode_encodeComponent, Utf8.decode?_encodeChars]

/-- A text with an escape in it is a text like any other. -/
example : encodeComponent "50%25 é".toList = "50%2525%20%C3%A9".toList := by decide

end ApiToolkit.Path
