/-!
# Double-precision numbers

A number with a fraction or an exponent is held as a 64-bit floating-point number, that is, as its
bits.  Two of them are the same when their bits are.

## What is inside

- `Binary64`: the bits, with the sign, the class and the significand read off them.
- `Binary64.scale?`: a significand times a power of ten, in double-precision steps.
- `Binary64.ofDecimal`: the double nearest to a decimal number.
-/

namespace ApiToolkit

/-- A double-precision number, as its bits. -/
structure Binary64 where
  /-- Sign, exponent and fraction, from the highest bit down. -/
  bits : UInt64
deriving DecidableEq, Repr

namespace Binary64

/-- The number that the machine computes with. -/
def toFloat (x : Binary64) : Float := Float.ofBits x.bits

/-- Takes over a machine number. -/
def ofFloat (x : Float) : Binary64 := ⟨x.toBits⟩

/-! ## Reading the bits -/

/-- Whether the sign bit is set. -/
def isNegative (x : Binary64) : Bool := x.bits.toNat / Nat.pow 2 63 == 1

/-- The eleven exponent bits. -/
def exponentField (x : Binary64) : Nat := x.bits.toNat / Nat.pow 2 52 % 2048

/-- The fifty-two fraction bits. -/
def fractionField (x : Binary64) : Nat := x.bits.toNat % Nat.pow 2 52

/-- Whether the number is neither an infinity nor a NaN. -/
def isFinite (x : Binary64) : Bool := x.exponentField != 2047

/-- The size of a finite number is `significand * 2 ^ exponent`. -/
def significand (x : Binary64) : Nat :=
  if x.exponentField = 0 then x.fractionField else Nat.pow 2 52 + x.fractionField

/-- The size of a finite number is `significand * 2 ^ exponent`. -/
def exponent (x : Binary64) : Int :=
  if x.exponentField = 0 then -1074 else (x.exponentField : Int) - 1075

/-- The same size with the other sign. -/
def negate (x : Binary64) : Binary64 := ⟨x.bits ^^^ 0x8000000000000000⟩

/-- The double next to an integer, the even one of two equally near. -/
def ofNat (n : Nat) : Binary64 := ofFloat (Float.ofNat n)

/-! ## Scaling by powers of ten -/

/-- The double nearest to a power of ten. -/
def powerOfTen (n : Nat) : Float := Float.ofScientific 1 false n

/-- Divides by a power of ten, by 10^308 at a time. -/
def divideByPower (x : Float) (n : Nat) : Float :=
  if n ≤ 308 then x / powerOfTen n
  else if x == 0.0 then x
  else divideByPower (x / powerOfTen 308) (n - 308)
termination_by n

/-- A significand times a power of ten, rounded after each step.  There is no result where the
number is too large. -/
def scale? (significand : Nat) (exponent : Int) : Option Binary64 :=
  let x := Float.ofNat significand
  match exponent with
  | .ofNat n =>
    if n ≤ 308 then
      let scaled := x * powerOfTen n
      if scaled.isInf then none else some (ofFloat scaled)
    else if significand = 0 then some (ofFloat x)
    else none
  | .negSucc n => some (ofFloat (divideByPower x (n + 1)))

/-- The double nearest to `digits * 10 ^ exponent`; infinite where that is too large. -/
def ofDecimal (digits : Nat) (exponent : Int) : Binary64 :=
  let width := (Nat.toDigits 10 digits).length
  if digits = 0 then ⟨0⟩
  else if exponent > 310 then ⟨0x7FF0000000000000⟩
  else if exponent + width < -400 then ⟨0⟩
  else ofFloat (Float.ofScientific digits (exponent < 0) exponent.natAbs)

end Binary64

end ApiToolkit
