import ApiToolkit.Json.Basic
import ApiToolkit.Number.Digit
/-!
# Reading JSON texts

The reader is strict: it refuses control characters in strings, lone surrogates, leading zeros,
numbers that are too large for a double, nesting deeper than 127 and anything after the value.

## What is inside

- `Json.Reader.string?`, `Json.Reader.number?`: the two lexical forms.
- `Json.Reader.value?`: a value and the text after it, down to a given depth.
- `Json.read?`: a whole text, with repeated keys kept; `Json.parse?`: with repeated keys
  collapsed.
-/

namespace ApiToolkit.Json

/-- How deep arrays and objects may be nested. -/
def depthLimit : Nat := 127

namespace Reader

/-! ## Blanks -/

/-- Blanks between tokens. -/
def isBlank (c : Char) : Bool := c == ' ' || c == '\n' || c == '\t' || c == '\r'

/-- The text after its leading blanks. -/
def skipBlanks (text : List Char) : List Char := text.dropWhile isBlank

/-! ## Strings -/

/-- Four hexadecimal digits. -/
def hexUnit? : List Char → Option (Nat × List Char)
  | a :: b :: c :: d :: rest => do
    let a ← Digit.hexadecimal? a
    let b ← Digit.hexadecimal? b
    let c ← Digit.hexadecimal? c
    let d ← Digit.hexadecimal? d
    some (((a * 16 + b) * 16 + c) * 16 + d, rest)
  | _ => none

/-- The character of a numeric escape.  A high surrogate needs an escaped low one after it, and
no other surrogate is accepted. -/
def unicodeEscape? (text : List Char) : Option (Char × List Char) := do
  let (unit, rest) ← hexUnit? text
  if 0xDC00 ≤ unit && unit < 0xE000 then none
  else if 0xD800 ≤ unit && unit < 0xDC00 then
    match rest with
    | '\\' :: 'u' :: more => do
      let (low, rest) ← hexUnit? more
      if 0xDC00 ≤ low && low < 0xE000 then
        some (Char.ofNat (0x10000 + (unit - 0xD800) * 0x400 + (low - 0xDC00)), rest)
      else none
    | _ => none
  else some (Char.ofNat unit, rest)

/-- The character of a one-letter escape. -/
def letterEscape? : Char → Option Char
  | '"' => some '"'
  | '\\' => some '\\'
  | '/' => some '/'
  | 'b' => some '\x08'
  | 'f' => some '\x0c'
  | 'n' => some '\n'
  | 'r' => some '\r'
  | 't' => some '\t'
  | _ => none

/-- The characters of a string after its opening quote, and the text after its closing one.
`read` holds the characters so far, the last one first; `steps` bounds their number. -/
def stringTail? (steps : Nat) (read : List Char) (text : List Char) :
    Option (String × List Char) :=
  match steps, text with
  | 0, _ => none
  | _ + 1, [] => none
  | n + 1, c :: rest =>
    if c = '"' then some (String.ofList read.reverse, rest)
    else if c = '\\' then
      match rest with
      | 'u' :: more => do
        let (c, rest) ← unicodeEscape? more
        stringTail? n (c :: read) rest
      | e :: more => do
        let c ← letterEscape? e
        stringTail? n (c :: read) more
      | [] => none
    else if c.toNat < 0x20 then none
    else stringTail? n (c :: read) rest

/-- A string after its opening quote. -/
def string? (text : List Char) : Option (String × List Char) :=
  stringTail? (text.length + 1) [] text

/-! ## Numbers -/

/-- A number being read: the digits that fit into an unsigned 64-bit integer, and the power of ten
that counts the digits after the point and those that did not fit. -/
structure Magnitude where
  /-- The digits so far. -/
  significand : Nat
  /-- The power of ten. -/
  exponent : Int

/-- Takes one more digit if the digits still fit. -/
def Magnitude.push? (m : Magnitude) (digit : Nat) : Option Nat :=
  let next := m.significand * 10 + digit
  if next < Nat.pow 2 64 then some next else none

/-- The leading digits of a text, and what follows them. -/
def digits (text : List Char) : List Nat × List Char :=
  match text with
  | [] => ([], [])
  | c :: rest =>
    match Digit.decimal? c with
    | some d => let (more, rest) := digits rest; (d :: more, rest)
    | none => ([], c :: rest)

/-- Reads the digits before the point.  From the first digit that does not fit on, digits only
raise the exponent. -/
def Magnitude.whole (m : Magnitude) (ds : List Nat) : Magnitude :=
  match ds with
  | [] => m
  | d :: rest =>
    match m.push? d with
    | some next => Magnitude.whole ⟨next, m.exponent⟩ rest
    | none => ⟨m.significand, m.exponent + (rest.length + 1)⟩

/-- Reads the digits after the point.  From the first digit that does not fit on, digits are
dropped. -/
def Magnitude.fraction (m : Magnitude) (ds : List Nat) : Magnitude :=
  match ds with
  | [] => m
  | d :: rest =>
    match m.push? d with
    | some next => Magnitude.fraction ⟨next, m.exponent - 1⟩ rest
    | none => m

/-- Digits of which there is at least one. -/
def someDigits? (text : List Char) : Option (List Nat × List Char) :=
  match digits text with
  | ([], _) => none
  | found => some found

/-- A power of ten after its letter, with an optional sign. -/
def exponent? (text : List Char) : Option (Int × List Char) :=
  match text with
  | '-' :: rest => (someDigits? rest).map fun (ds, rest) => (-(Digit.number 10 ds : Int), rest)
  | '+' :: rest => (someDigits? rest).map fun (ds, rest) => ((Digit.number 10 ds : Int), rest)
  | rest => (someDigits? rest).map fun (ds, rest) => ((Digit.number 10 ds : Int), rest)

/-- The double of a magnitude with a sign. -/
def Magnitude.float? (m : Magnitude) (negative : Bool) : Option Number :=
  (Binary64.scale? m.significand m.exponent).map fun x =>
    .float (if negative then x.negate else x)

/-- The digits before the point: a single zero, or digits that do not begin with zero. -/
def wholeDigits? (text : List Char) : Option (List Nat × List Char) :=
  match someDigits? text with
  | some (0 :: _ :: _, _) => none
  | found => found

/-- An exponent, if there is one, and then the double. -/
def finish? (negative : Bool) (m : Magnitude) (text : List Char) : Option (Number × List Char) :=
  match text with
  | 'e' :: rest | 'E' :: rest => do
    let (power, rest) ← exponent? rest
    let number ← Magnitude.float? ⟨m.significand, m.exponent + power⟩ negative
    some (number, rest)
  | _ => (m.float? negative).map fun number => (number, text)

/-- The integer with these digits, if 64 bits hold it; otherwise a double.  A negative zero is a
double too. -/
def integer? (negative : Bool) (ds : List Nat) : Option Number :=
  let n := Digit.number 10 ds
  if negative then
    -- The least integer is larger in size than the greatest one.
    if 0 < n && n ≤ Nat.pow 2 63 then some (.integer (-n))
    else if n < Nat.pow 2 64 then some (.float (Binary64.ofNat n).negate)
    else (Magnitude.whole ⟨0, 0⟩ ds).float? true
  else if n < Nat.pow 2 64 then some (.integer n)
  else (Magnitude.whole ⟨0, 0⟩ ds).float? false

/-- A number after its sign. -/
def unsigned? (negative : Bool) (text : List Char) : Option (Number × List Char) := do
  let (ds, rest) ← wholeDigits? text
  match rest with
  | '.' :: more => do
    let (fs, rest) ← someDigits? more
    finish? negative ((Magnitude.whole ⟨0, 0⟩ ds).fraction fs) rest
  | 'e' :: _ | 'E' :: _ => finish? negative (Magnitude.whole ⟨0, 0⟩ ds) rest
  | _ => (integer? negative ds).map fun number => (number, rest)

/-- A number. -/
def number? (text : List Char) : Option (Number × List Char) :=
  match text with
  | '-' :: rest => unsigned? true rest
  | _ => unsigned? false text

/-! ## Values -/

/-- The text after a word that it begins with. -/
def word? (word : List Char) (result : Json) (text : List Char) : Option (Json × List Char) :=
  if word.isPrefixOf text then some (result, text.drop word.length) else none

/-- The elements of an array after its opening bracket.  `steps` bounds their number. -/
def items? (value? : List Char → Option (Json × List Char)) (steps : Nat) (read : List Json)
    (text : List Char) : Option (List Json × List Char) :=
  match steps with
  | 0 => none
  | n + 1 => do
    let (item, rest) ← value? (skipBlanks text)
    match skipBlanks rest with
    | ',' :: rest => items? value? n (item :: read) rest
    | ']' :: rest => some ((item :: read).reverse, rest)
    | _ => none

/-- The entries of an object after its opening brace.  `steps` bounds their number. -/
def entries? (value? : List Char → Option (Json × List Char)) (steps : Nat)
    (read : Entries Json) (text : List Char) : Option (Entries Json × List Char) :=
  match steps with
  | 0 => none
  | n + 1 =>
    match skipBlanks text with
    | '"' :: rest => do
      let (key, rest) ← string? rest
      match skipBlanks rest with
      | ':' :: rest => do
        let (value, rest) ← value? (skipBlanks rest)
        match skipBlanks rest with
        | ',' :: rest => entries? value? n ((key, value) :: read) rest
        | '}' :: rest => some (((key, value) :: read).reverse, rest)
        | _ => none
      | _ => none
    | _ => none

/-- A value and the text after it.  Arrays and objects may be nested `depth` deep. -/
def value? (depth : Nat) (text : List Char) : Option (Json × List Char) :=
  match text with
  | 'n' :: _ => word? "null".toList .null text
  | 't' :: _ => word? "true".toList (.bool true) text
  | 'f' :: _ => word? "false".toList (.bool false) text
  | '"' :: rest => (string? rest).map fun (value, rest) => (.str value, rest)
  | '[' :: rest =>
    match depth with
    | 0 => none
    | d + 1 =>
      match skipBlanks rest with
      | ']' :: rest => some (.arr [], rest)
      | rest => (items? (value? d) rest.length [] rest).map fun (items, rest) => (.arr items, rest)
  | '{' :: rest =>
    match depth with
    | 0 => none
    | d + 1 =>
      match skipBlanks rest with
      | '}' :: rest => some (.obj [], rest)
      | rest =>
        (entries? (value? d) rest.length [] rest).map fun (entries, rest) => (.obj entries, rest)
  | _ => (number? text).map fun (number, rest) => (.num number, rest)

end Reader

/-- Reads a whole text whose values are nested at most `depth` deep.  Repeated keys are kept. -/
def readWithin? (depth : Nat) (text : List Char) : Option Json :=
  match Reader.value? depth (Reader.skipBlanks text) with
  | some (value, rest) => if (Reader.skipBlanks rest).isEmpty then some value else none
  | none => none

/-- Reads a whole text and keeps repeated keys. -/
def read? (text : String) : Option Json := readWithin? depthLimit text.toList

/-- Reads a whole text.  Of a repeated key the first place is kept and the last value wins. -/
def parse? (text : String) : Option Json := (read? text).map collapse

end ApiToolkit.Json
