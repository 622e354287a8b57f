import ApiToolkit.Json.Basic
import ApiToolkit.Json.Reader
import ApiToolkit.Text.Letter
/-!
# TOML scalars

Strings, numbers and dates of TOML texts.  Every reader takes the text from its position on and
gives back the rest.

## What is inside

- `Toml.newline?`, `Toml.layout?`: line ends, blanks and comments.
- `Toml.string?`: strings of the four kinds.
- `Toml.dateTime?`: dates, times and both.
- `Toml.number?`: integers and numbers with a fraction.
-/

namespace ApiToolkit.Toml

/-! ## Blanks, line ends and comments -/

/-- Blanks within a line. -/
def isBlank (c : Char) : Bool := c == ' ' || c == '\t'

/-- The text after its leading blanks. -/
def skipBlanks (text : List Char) : List Char := text.dropWhile isBlank

/-- Characters of comments: all but control characters. -/
def isCommentChar (c : Char) : Bool := c == '\t' || (0x20 ≤ c.toNat && c.toNat ≠ 0x7F)

/-- The text after a line end. -/
def newline? (text : List Char) : Option (List Char) :=
  match text with
  | '\n' :: rest => some rest
  | '\r' :: '\n' :: rest => some rest
  | _ => none

/-- The text after a line end, or the end of the text. -/
def lineEnd? (text : List Char) : Option (List Char) :=
  if text.isEmpty then some [] else newline? text

/-- What follows the last item of a line: blanks, a comment, and the line end. -/
def lineTail? (text : List Char) : Option (List Char) :=
  match skipBlanks text with
  | '#' :: rest => lineEnd? (rest.dropWhile isCommentChar)
  | rest => lineEnd? rest

/-- The text after blanks, line ends and comments.  A comment ends at a line end. -/
def layout? (inComment : Bool) (text : List Char) : Option (List Char) :=
  match text with
  | [] => if inComment then none else some []
  | '\n' :: rest => layout? false rest
  | '\r' :: '\n' :: rest => layout? false rest
  | c :: rest =>
    if inComment then if isCommentChar c then layout? true rest else none
    else if isBlank c then layout? false rest
    else if c == '#' then layout? true rest
    else some (c :: rest)

/-- The text after blanks and line ends. -/
def skipSpace (text : List Char) : List Char :=
  match text with
  | '\n' :: rest => skipSpace rest
  | '\r' :: '\n' :: rest => skipSpace rest
  | c :: rest => if isBlank c then skipSpace rest else c :: rest
  | [] => []

/-! ## Strings -/

/-- Characters that stand for themselves in strings with escapes. -/
def isPlainChar (c : Char) : Bool := isCommentChar c && c != '"' && c != '\\'

/-- Characters that stand for themselves in strings without escapes. -/
def isLiteralChar (c : Char) : Bool := isCommentChar c && c != '\''

/-- The character whose number is written with so many hexadecimal digits. -/
def hexEscape? (count : Nat) (text : List Char) : Option (Char × List Char) := do
  let digits := text.take count
  let n ← Digit.number? 16 digits
  if digits.length = count && n.isValidChar then some (Char.ofNat n, text.drop count) else none

/-- The character of an escape after its backslash. -/
def escape? (text : List Char) : Option (Char × List Char) :=
  match text with
  | 'b' :: rest => some ('\x08', rest)
  | 'f' :: rest => some ('\x0c', rest)
  | 'n' :: rest => some ('\n', rest)
  | 'r' :: rest => some ('\r', rest)
  | 't' :: rest => some ('\t', rest)
  | '"' :: rest => some ('"', rest)
  | '\\' :: rest => some ('\\', rest)
  | 'u' :: rest => hexEscape? 4 rest
  | 'U' :: rest => hexEscape? 8 rest
  | _ => none

/-- A string with escapes after its opening quote.  `read` holds the characters so far, the last
one first; `steps` bounds their number. -/
def basicTail? (steps : Nat) (read text : List Char) : Option (String × List Char) :=
  match steps, text with
  | 0, _ => none
  | _ + 1, [] => none
  | n + 1, c :: rest =>
    if c == '"' then some (String.ofList read.reverse, rest)
    else if c == '\\' then do
      let (c, rest) ← escape? rest
      basicTail? n (c :: read) rest
    else if isPlainChar c then basicTail? n (c :: read) rest
    else none

/-- A string without escapes after its opening quote. -/
def literalTail? (text : List Char) : Option (String × List Char) :=
  let inside := text.takeWhile isLiteralChar
  match text.drop inside.length with
  | '\'' :: rest => some (String.ofList inside, rest)
  | _ => none

/-- How many quotes the text begins with, up to five. -/
def quoteRun (quote : Char) (text : List Char) : Nat :=
  ((text.take 5).takeWhile (· == quote)).length

/-- A string over several lines after its opening quotes.  Three quotes end it; up to two more
before them belong to it.  `escapes` says whether backslashes are escapes; one at the end of a
line takes the blanks and line ends that follow away. -/
def longTail? (quote : Char) (escapes : Bool) (steps : Nat) (read text : List Char) :
    Option (String × List Char) :=
  match steps, text with
  | 0, _ => none
  | _ + 1, [] => none
  | n + 1, c :: rest =>
    if c == quote then
      let run := quoteRun quote text
      -- Of up to five quotes the last three end the string.
      if 3 ≤ run then
        some (String.ofList (List.replicate (run - 3) quote ++ read).reverse, text.drop run)
      else longTail? quote escapes n (c :: read) rest
    else if escapes && c == '\\' then
      match newline? (skipBlanks rest) with
      | some rest => longTail? quote escapes n read (skipSpace rest)
      | none => do
        let (c, rest) ← escape? rest
        longTail? quote escapes n (c :: read) rest
    else
      match newline? text with
      | some rest => longTail? quote escapes n ('\n' :: read) rest
      | none => if isCommentChar c then longTail? quote escapes n (c :: read) rest else none

/-- A string over several lines after its opening quotes.  A line end there is dropped. -/
def long? (quote : Char) (escapes : Bool) (text : List Char) : Option (String × List Char) :=
  longTail? quote escapes (text.length + 1) [] ((newline? text).getD text)

/-- A string in one line. -/
def shortString? (text : List Char) : Option (String × List Char) :=
  match text with
  | '"' :: rest => basicTail? (rest.length + 1) [] rest
  | '\'' :: rest => literalTail? rest
  | _ => none

/-- A string of any kind. -/
def string? (text : List Char) : Option (String × List Char) :=
  match text with
  | '"' :: '"' :: '"' :: rest => long? '"' true rest
  | '\'' :: '\'' :: '\'' :: rest => long? '\'' false rest
  | _ => shortString? text

/-! ## Dates and times -/

/-- Exactly so many digits, their number, and the rest. -/
def fixedDigits? (count : Nat) (text : List Char) : Option (List Char × Nat × List Char) := do
  let digits := text.take count
  let n ← Digit.number? 10 digits
  if digits.length = count then some (digits, n, text.drop count) else none

/-- Two digits whose number is within bounds. -/
def twoDigits? (low high : Nat) (text : List Char) : Option (List Char × List Char) := do
  let (digits, n, rest) ← fixedDigits? 2 text
  if low ≤ n && n ≤ high then some (digits, rest) else none

/-- How many days a month has. -/
def daysOfMonth (year month : Nat) : Nat :=
  if month = 2 then
    if year % 4 = 0 && (year % 100 ≠ 0 || year % 400 = 0) then 29 else 28
  else if [4, 6, 9, 11].contains month then 30
  else 31

/-- The text after a character that it has to begin with. -/
def mark? (c : Char) (text : List Char) : Option (List Char) :=
  match text with
  | d :: rest => if d = c then some rest else none
  | [] => none

/-- A date. -/
def date? (text : List Char) : Option (List Char × List Char) := do
  let (_, year, rest) ← fixedDigits? 4 text
  let rest ← mark? '-' rest
  let (_, month, rest) ← fixedDigits? 2 rest
  let rest ← mark? '-' rest
  let (_, day, rest) ← fixedDigits? 2 rest
  if 1 ≤ month && month ≤ 12 && 1 ≤ day && day ≤ daysOfMonth year month then
    some (text.take 10, rest)
  else none

/-- The fraction of a second: at most nine digits are kept, and zeros at the end are dropped. -/
def fractionText (digits : List Char) : List Char :=
  let kept := ((digits.take 9).reverse.dropWhile (· == '0')).reverse
  if kept.isEmpty then [] else '.' :: kept

/-- A time. -/
def time? (text : List Char) : Option (List Char × List Char) := do
  let (hour, rest) ← twoDigits? 0 23 text
  let rest ← mark? ':' rest
  let (minute, rest) ← twoDigits? 0 59 rest
  let rest ← mark? ':' rest
  let (second, rest) ← twoDigits? 0 60 rest
  let whole := hour ++ ':' :: minute ++ ':' :: second
  match rest with
  | '.' :: more =>
    let digits := more.takeWhile Letter.isAsciiDigit
    if digits.isEmpty then some (whole, rest)
    else some (whole ++ fractionText digits, more.drop digits.length)
  | _ => some (whole, rest)

/-- The distance from universal time, if there is one.  Zero is written with a plus sign. -/
def offset? (text : List Char) : Option (List Char × List Char) :=
  match text with
  | 'Z' :: rest | 'z' :: rest => some (['Z'], rest)
  | sign :: more =>
    if sign == '+' || sign == '-' then do
      let (hour, rest) ← twoDigits? 0 23 more
      let rest ← mark? ':' rest
      let (minute, rest) ← twoDigits? 0 59 rest
      -- There is no negative zero.
      let isZero := (hour ++ minute).all (· == '0')
      some ((if isZero then '+' else sign) :: hour ++ ':' :: minute, rest)
    else some ([], text)
  | [] => some ([], [])

/-- Whether a time begins here: two digits and a colon. -/
def beginsTime (text : List Char) : Bool :=
  match text with
  | a :: b :: ':' :: _ => Letter.isAsciiDigit a && Letter.isAsciiDigit b
  | _ => false

/-- Whether a date begins here: four digits and a hyphen. -/
def beginsDate (text : List Char) : Bool :=
  (text.take 4).all Letter.isAsciiDigit && text[4]? == some '-'

/-- A date, a time, or both with a distance from universal time. -/
def dateTime? (text : List Char) : Option (List Char × List Char) :=
  if beginsTime text then time? text
  else do
    let (date, rest) ← date? text
    match rest with
    | mark :: more =>
      if (mark == 'T' || mark == 't' || mark == ' ') && beginsTime more then do
        let (time, rest) ← time? more
        let (offset, rest) ← offset? rest
        some (date ++ 'T' :: time ++ offset, rest)
      else some (date, rest)
    | [] => some (date, [])

/-! ## Numbers -/

/-- Digits of a class, with single underscores between them.  `isOpen` says that an underscore
stands before, so that a digit has to follow. -/
def digitRun? (isDigit : Char → Bool) (isOpen : Bool) (text : List Char) :
    Option (List Char × List Char) :=
  match text with
  | [] => if isOpen then none else some ([], [])
  | c :: rest =>
    if isDigit c then (digitRun? isDigit false rest).map fun (digits, rest) => (c :: digits, rest)
    else if isOpen then none
    else if c == '_' then digitRun? isDigit true rest
    else some ([], c :: rest)

/-- Digits of a class, with single underscores between them.  There has to be a digit. -/
def digits? (isDigit : Char → Bool) (text : List Char) : Option (List Char × List Char) :=
  match text with
  | [] => none
  | c :: _ => if isDigit c then digitRun? isDigit false text else none

/-- The digits before the point: a single zero, or digits that do not begin with zero. -/
def wholeDigits? (text : List Char) : Option (List Char × List Char) :=
  match text with
  | '0' :: rest => some (['0'], rest)
  | _ => digits? Letter.isAsciiDigit text

/-- The number of some digits to a base. -/
def ofDigits (base : Nat) (digits : List Char) : Nat := (Digit.number? base digits).getD 0

/-- Whether a character is a digit to a base. -/
def isDigitOf (base : Nat) (c : Char) : Bool := (Digit.value? base c).isSome

/-- An integer, if it is a signed 64-bit integer. -/
def integer? (n : Int) : Option Json :=
  if -(Int.pow 2 63) ≤ n && n < Int.pow 2 63 then some (.num (.integer n)) else none

/-- An integer to a base other than ten, after its mark. -/
def marked? (base : Nat) (text : List Char) : Option (Json × List Char) := do
  let (digits, rest) ← digits? (isDigitOf base) text
  let value ← integer? (ofDigits base digits)
  some (value, rest)

/-- The value of a double.  Infinite and undefined numbers have none but null. -/
def floatValue (x : Binary64) : Json := if x.isFinite then .num (.float x) else .null

/-- A power of ten after its letter. -/
def power? (text : List Char) : Option (Int × List Char) :=
  let power (text : List Char) : Option (Nat × List Char) :=
    (digits? Letter.isAsciiDigit text).map fun (ds, rest) => (ofDigits 10 ds, rest)
  match text with
  | '-' :: rest => (power rest).map fun (n, rest) => (-(n : Int), rest)
  | '+' :: rest => (power rest).map fun (n, rest) => ((n : Int), rest)
  | _ => (power text).map fun (n, rest) => ((n : Int), rest)

/-- The double next to a decimal number.  Positive numbers that are too large are refused. -/
def float? (isNegative : Bool) (whole fraction : List Char) (power : Int) : Option Json :=
  let x := Binary64.ofDecimal (ofDigits 10 (whole ++ fraction)) (power - fraction.length)
  if isNegative then some (floatValue x.negate)
  else if x.isFinite then some (floatValue x)
  else none

/-- A number after its sign. -/
def unsigned? (isNegative : Bool) (text : List Char) : Option (Json × List Char) := do
  let (whole, rest) ← wholeDigits? text
  match rest with
  | '.' :: more => do
    let (fraction, rest) ← digits? Letter.isAsciiDigit more
    match rest with
    | 'e' :: more | 'E' :: more => do
      let (power, rest) ← power? more
      let value ← float? isNegative whole fraction power
      some (value, rest)
    | _ => (float? isNegative whole fraction 0).map fun value => (value, rest)
  | 'e' :: more | 'E' :: more => do
    let (power, rest) ← power? more
    let value ← float? isNegative whole [] power
    some (value, rest)
  | _ =>
    let n : Int := ofDigits 10 whole
    (integer? (if isNegative then -n else n)).map fun value => (value, rest)

/-- The text after `inf` or `nan`. -/
def specialTail? (text : List Char) : Option (List Char) :=
  match text with
  | 'i' :: 'n' :: 'f' :: rest => some rest
  | 'n' :: 'a' :: 'n' :: rest => some rest
  | _ => none

/-- A number. -/
def number? (text : List Char) : Option (Json × List Char) :=
  match text with
  | '0' :: 'x' :: rest => marked? 16 rest
  | '0' :: 'o' :: rest => marked? 8 rest
  | '0' :: 'b' :: rest => marked? 2 rest
  | sign :: rest =>
    let size := if sign == '+' || sign == '-' then rest else text
    match specialTail? size with
    | some rest => some (.null, rest)
    | none => unsigned? (sign == '-') size
  | [] => none

end ApiToolkit.Toml
