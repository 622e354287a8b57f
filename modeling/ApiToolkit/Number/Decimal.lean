import ApiToolkit.Number.Binary64
/-!
# Decimal texts of double-precision numbers

The text of a double is the shortest decimal that reads back as the same double, and the nearest
one of that length.

## What is inside

- `Decimal`: digits and a power of ten.
- `Decimal.shortest`: the coarsest decimal grid with a point in the rounding interval decides.
- `Decimal.Layout`: where positional writing ends, and `Decimal.Layout.text`.
-/

namespace ApiToolkit

/-- The number `digits * 10 ^ exponent`. -/
structure Decimal where
  /-- The digits, read as a natural number. -/
  digits : Nat
  /-- The power of ten. -/
  exponent : Int
deriving DecidableEq, Repr

namespace Decimal

/-! ## The rounding interval -/

/-- The numbers that round to one double: all between `low` and `high`, in units of `2 ^ power`.
The ends belong to it if `closed`. -/
structure Interval where
  /-- The lower end. -/
  low : Nat
  /-- The double itself. -/
  mid : Nat
  /-- The upper end. -/
  high : Nat
  /-- The unit is this power of two. -/
  power : Int
  /-- Whether the ends round to the double too. -/
  closed : Bool

/-- The interval of a double other than zero.  Below a power of two the neighbour is half as far
as above. -/
def Interval.of (x : Binary64) : Interval :=
  let m := x.significand
  let near := m = Nat.pow 2 52 && x.exponentField > 1
  ⟨4 * m - (if near then 1 else 2), 4 * m, 4 * m + 2, x.exponent - 2, m % 2 == 0⟩

/-- Two factors that make `n * 2 ^ power` and `c * 10 ^ exponent` comparable integers: the first
for `n`, the second for `c`. -/
def commonScale (power exponent : Int) : Nat × Nat :=
  (Nat.pow 2 power.toNat * Nat.pow 10 (-exponent).toNat,
    Nat.pow 10 exponent.toNat * Nat.pow 2 (-power).toNat)

/-- Looks for a multiple of `10 ^ exponent` in the interval: one of the two multiples around the
double, the nearer if both fit, the even one if they are equally near. -/
def Interval.pointOn? (i : Interval) (exponent : Int) : Option Nat :=
  let (a, b) := commonScale i.power exponent
  let fits (c : Nat) : Bool :=
    if i.closed then i.low * a ≤ c * b && c * b ≤ i.high * a
    else i.low * a < c * b && c * b < i.high * a
  -- The interval holds the double, so a point of the grid in it is one of these two neighbours or
  -- lies beyond one that is in it as well.
  let below := i.mid * a / b
  let above := below + 1
  match fits below, fits above with
  | false, false => none
  | true, false => some below
  | false, true => some above
  | true, true =>
    let down := i.mid * a - below * b
    let up := above * b - i.mid * a
    if down < up then some below
    else if up < down then some above
    else if below % 2 = 0 then some below else some above

/-- An exponent of ten whose power is above the double. -/
def Interval.ceiling (i : Interval) : Int :=
  let a := i.high * Nat.pow 2 i.power.toNat
  let b := Nat.pow 2 (-i.power).toNat
  if b ≤ a then (Nat.toDigits 10 (a / b)).length
  else 2 - ((Nat.toDigits 10 (b / a)).length : Int)

/-- Tries ever finer grids. -/
def Interval.search (i : Interval) (exponent : Int) (steps : Nat) : Decimal :=
  match steps with
  | 0 => ⟨i.mid, 0⟩
  | n + 1 =>
    match i.pointOn? exponent with
    | some c => ⟨c, exponent⟩
    | none => i.search (exponent - 1) n

/-- The shortest decimal that rounds to the size of a double. -/
def shortest (x : Binary64) : Decimal :=
  if x.significand = 0 then ⟨0, 0⟩
  else
    let i := Interval.of x
    i.search i.ceiling 20

/-! ## Texts -/

/-- How a decimal is written. -/
structure Layout where
  /-- The least power of ten of a first digit that is still written by position. -/
  least : Int
  /-- The greatest power of ten of a first digit that is still written by position. -/
  greatest : Int

/-- The digits of an integer. -/
def natText (n : Nat) : List Char := Nat.toDigits 10 n

/-- Writes a decimal by position, with at least one digit after the point. -/
def positional (d : Decimal) : List Char :=
  let digits := natText d.digits
  match d.exponent with
  | .ofNat n => digits ++ List.replicate n '0' ++ ['.', '0']
  | .negSucc n =>
    let places := n + 1
    -- At least one digit stands before the point.
    let padded := List.replicate (places + 1 - digits.length) '0' ++ digits
    padded.take (padded.length - places) ++ '.' :: padded.drop (padded.length - places)

/-- Writes a decimal as one digit, the others after a point, and the power of ten with its
sign. -/
def scientific (d : Decimal) : List Char :=
  let digits := natText d.digits
  let power := d.exponent + (digits.length - 1 : Nat)
  let mark := if power < 0 then ['e', '-'] else ['e', '+']
  let fraction := digits.drop 1
  digits.take 1 ++ (if fraction.isEmpty then [] else '.' :: fraction) ++ mark ++
    natText power.natAbs

/-- The text of a decimal. -/
def Layout.decimalText (layout : Layout) (d : Decimal) : List Char :=
  let power := d.exponent + ((natText d.digits).length - 1 : Nat)
  if d.digits = 0 || (layout.least ≤ power && power ≤ layout.greatest) then d.positional
  else d.scientific

/-- The text of a finite double. -/
def Layout.text (layout : Layout) (x : Binary64) : List Char :=
  (if x.isNegative then ['-'] else []) ++ layout.decimalText (shortest x)

end Decimal

end ApiToolkit
