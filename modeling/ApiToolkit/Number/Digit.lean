/-!
# Digits

Numbers are written in digits to several bases: in documents, addresses and escapes.

## What is inside

- `Digit.decimal?`, `Digit.hexadecimal?`: the value of one digit.
- `Digit.number`: the number with some digits.
- `Digit.number?`: the number that a text of digits stands for.
-/

namespace ApiToolkit.Digit

/-- The value of a decimal digit. -/
def decimal? (c : Char) : Option Nat :=
  if '0' ≤ c && c ≤ '9' then some (c.toNat - '0'.toNat) else none

/-- The value of a hexadecimal digit of either case. -/
def hexadecimal? (c : Char) : Option Nat :=
  if '0' ≤ c && c ≤ '9' then some (c.toNat - '0'.toNat)
  else if 'a' ≤ c && c ≤ 'f' then some (c.toNat - 'a'.toNat + 10)
  else if 'A' ≤ c && c ≤ 'F' then some (c.toNat - 'A'.toNat + 10)
  else none

/-- The value of a digit to a base of at most sixteen. -/
def value? (base : Nat) (c : Char) : Option Nat := (hexadecimal? c).filter (· < base)

/-- The number with these digits to a base, the most significant one first. -/
def number (base : Nat) (digits : List Nat) : Nat := digits.foldl (fun n d => n * base + d) 0

/-- The number that a text stands for, if all of it are digits to a base. -/
def number? (base : Nat) (text : List Char) : Option Nat :=
  (text.mapM (value? base)).map (number base)

end ApiToolkit.Digit
