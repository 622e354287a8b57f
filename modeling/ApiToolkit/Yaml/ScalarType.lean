import ApiToolkit.Json.Basic
import ApiToolkit.Json.Reader
import ApiToolkit.Text.Letter
import ApiToolkit.Text.Search
/-!
# Types of YAML scalars

A plain scalar without a tag is null, a Boolean, a number or a string by its text.

## What is inside

- `Yaml.isNullText`, `Yaml.boolOf?`, `Yaml.intOf?`, `Yaml.floatOf?`: the texts of each type.
- `Yaml.plainValue?`, `Yaml.scalarValue?`: the value of a scalar.
-/

namespace ApiToolkit.Yaml

/-! ## Null and Booleans -/

/-- Whether a text stands for null. -/
def isNullText (text : String) : Bool := ["~", "null", "Null", "NULL"].contains text

/-- The truth value that a text stands for. -/
def boolOf? (text : String) : Option Bool :=
  if ["true", "True", "TRUE"].contains text then some true
  else if ["false", "False", "FALSE"].contains text then some false
  else none

/-! ## Integers -/

/-- A text without a leading plus sign. -/
def stripPlus (text : List Char) : List Char :=
  match text with
  | '+' :: rest => rest
  | _ => text

/-- Whether a text is a zero followed by digits, after at most one sign.  Such a text is a
string. -/
def hasLeadingZero (text : List Char) : Bool :=
  let digits :=
    match text with
    | '+' :: rest | '-' :: rest => rest
    | _ => text
  match digits with
  | '0' :: d :: rest => (d :: rest).all Letter.isAsciiDigit
  | _ => false

/-- The number that digits to a base stand for; there has to be a digit. -/
def digitsOf? (base : Nat) (text : List Char) : Option Nat :=
  if text.isEmpty then none else Digit.number? base text

/-- The number after a mark for its base: `0x`, `0o` or `0b`. -/
def markedOf? (text : List Char) : Option Nat :=
  match text with
  | '0' :: 'x' :: digits => digitsOf? 16 digits
  | '0' :: 'o' :: digits => digitsOf? 8 digits
  | '0' :: 'b' :: digits => digitsOf? 2 digits
  | _ => none

/-- The integer that a text stands for. -/
def intOf? (text : List Char) : Option Int :=
  match text with
  | '-' :: rest =>
    match markedOf? rest with
    | some n => some (-n)
    | none => if hasLeadingZero text then none else (digitsOf? 10 rest).map fun n => -n
  | _ =>
    let rest := stripPlus text
    match markedOf? rest with
    | some n => some n
    | none => if hasLeadingZero text then none else (digitsOf? 10 rest).map fun n => n

/-- The value of an integer.  Up to 64 bits it is kept; there is no value for integers that fit
into 128 bits only, and larger ones are no integers. -/
inductive IntSize where
  /-- A signed or an unsigned 64-bit integer. -/
  | kept
  /-- A signed or an unsigned 128-bit integer. -/
  | refused
  /-- No integer. -/
  | tooLarge

/-- The size of an integer. -/
def intSize (n : Int) : IntSize :=
  if -(Int.pow 2 63) ≤ n && n < Int.pow 2 64 then .kept
  else if -(Int.pow 2 127) ≤ n && n < Int.pow 2 128 then .refused
  else .tooLarge

/-! ## Numbers with a fraction -/

/-- The digits before and after the point and the power of ten. -/
def decimalOf? (text : List Char) : Option (List Char × List Char × Int) :=
  let whole := text.takeWhile Letter.isAsciiDigit
  let rest := text.drop whole.length
  let (fraction, rest) :=
    match rest with
    | '.' :: more =>
      let digits := more.takeWhile Letter.isAsciiDigit
      (digits, more.drop digits.length)
    | _ => ([], rest)
  if whole.isEmpty && fraction.isEmpty then none
  else
    match rest with
    | [] => some (whole, fraction, 0)
    | mark :: power =>
      if mark != 'e' && mark != 'E' then none
      else
        let value (digits : List Char) : Option Int := (digitsOf? 10 digits).map fun n => (n : Int)
        match power with
        | '-' :: digits => (value digits).map fun n => (whole, fraction, -n)
        | digits => (value (stripPlus digits)).map fun n => (whole, fraction, n)

/-- The finite double nearest to the number that a text without a plus sign stands for. -/
def finiteOf? (text : List Char) : Option Binary64 := do
  let (isNegative, size) :=
    match text with
    | '-' :: rest => (true, rest)
    | _ => (false, stripPlus text)
  let (whole, fraction, power) ← decimalOf? size
  let digits ← digitsOf? 10 (whole ++ fraction)
  let x := Binary64.ofDecimal digits (power - fraction.length)
  if x.isFinite then some (if isNegative then x.negate else x) else none

/-- The number that a text stands for: infinite, undefined or finite. -/
def floatOf? (text : String) : Option Binary64 :=
  let chars := text.toList
  let rest := stripPlus chars
  if [".inf", ".Inf", ".INF"].any (·.toList == rest) then some ⟨0x7FF0000000000000⟩
  else if ["-.inf", "-.Inf", "-.INF"].contains text then some ⟨0xFFF0000000000000⟩
  else if [".nan", ".NaN", ".NAN"].contains text then some ⟨0x7FF8000000000000⟩
  else
    match chars with
    | '+' :: '+' :: _ | '+' :: '-' :: _ => none
    | _ => finiteOf? rest

/-! ## Values -/

/-- The value of a number.  Infinite and undefined numbers become null. -/
def floatValue (x : Binary64) : Json := if x.isFinite then .num (.float x) else .null

/-- What the text of an integer is: a value, an error, or no integer. -/
def intValue? (text : String) : Option (Option Json) :=
  match intOf? text.toList with
  | none => none
  | some n =>
    match intSize n with
    | .kept => some (some (.num (.integer n)))
    | .refused => some none
    | .tooLarge => none

/-- The value of a plain scalar without a tag.  A text that stands for nothing else is a
string. -/
def plainValue? (text : String) : Option Json :=
  if text.isEmpty || isNullText text then some .null
  else
    match boolOf? text with
    | some b => some (.bool b)
    | none =>
      match intValue? text with
      | some value => value
      | none =>
        if hasLeadingZero text.toList then some (.str text)
        else
          match floatOf? text with
          | some x => some (floatValue x)
          | none => some (.str text)

/-- The value of a scalar.  The tags of the standard types demand a text of that type. -/
def scalarValue? (tag : Option String) (text : String) (isPlain : Bool) : Option Json :=
  match tag with
  | some "tag:yaml.org,2002:null" => if isNullText text then some .null else none
  | some "tag:yaml.org,2002:bool" => (boolOf? text).map .bool
  | some "tag:yaml.org,2002:int" => (intValue? text).bind id
  | some "tag:yaml.org,2002:float" => (floatOf? text).map floatValue
  | some _ => some (.str text)
  | none => if isPlain then plainValue? text else some (.str text)

end ApiToolkit.Yaml
