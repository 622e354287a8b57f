import ApiToolkit.Number.Digit
import ApiToolkit.Text.Utf8
/-!
# Percent-encoding

Characters that may not stand for themselves in an address are written as the octets of their
UTF-8 form, each as a percent sign and two hexadecimal digits.

## What is inside

- `Percent.escape`: one octet.
- `Percent.encode`: a text, with a class of ASCII characters kept.
- `Percent.decode`: the octets that a text stands for.
-/

namespace ApiToolkit.Percent

/-! ## Writing -/

/-- An uppercase hexadecimal digit. -/
def hexDigit (n : Nat) : Char := (Nat.digitChar n).toUpper

/-- An octet as a percent sign and two digits. -/
def escape (octet : UInt8) : List Char :=
  ['%', hexDigit (octet.toNat / 16), hexDigit (octet.toNat % 16)]

/-- What is written for one character: itself, if it is an ASCII character of the class. -/
def encodeChar (keeps : Char → Bool) (c : Char) : List Char :=
  if c.toNat < 0x80 && keeps c then [c] else (Utf8.encodeChar c).flatMap escape

/-- Escapes all characters except the ASCII characters of a class. -/
def encode (keeps : Char → Bool) (text : List Char) : List Char := text.flatMap (encodeChar keeps)

/-! ## Reading -/

/-- The octets that a text stands for.  A percent sign without two digits stands for itself. -/
def decode (text : List Char) : List UInt8 :=
  match text with
  | [] => []
  | c :: a :: b :: rest =>
    if c = '%' then
      match Digit.hexadecimal? a, Digit.hexadecimal? b with
      | some high, some low => (high * 16 + low).toUInt8 :: decode rest
      | _, _ => Utf8.encodeChar c ++ decode (a :: b :: rest)
    else Utf8.encodeChar c ++ decode (a :: b :: rest)
  | c :: rest => Utf8.encodeChar c ++ decode rest

end ApiToolkit.Percent
