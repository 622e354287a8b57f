import ApiToolkit.Text.Letter.Classes
import ApiToolkit.Text.Letter.Cases
/-!
# Letters and their cases

Names are split, capitalised and lowered by the character properties of Unicode.

## What is inside

- `Letter.isAlphanumeric`, `Letter.isUppercase`, `Letter.isLowercase`, `Letter.isBlank`: classes
  of characters.
- `Letter.upper`: the uppercase form of a character, which may be several characters.
- `Letter.lowerText`: the lowercase form of a text; a sigma at the end of a word has a form of
  its own.
-/

namespace ApiToolkit.Letter

/-! ## Tables -/

/-- Whether a number belongs to one of the runs of a table. -/
def inTable (table : List Nat) (n : Nat) : Bool :=
  match table with
  | first :: last :: step :: rest =>
    (first ≤ n && n ≤ last && (n - first) % step == 0) || inTable rest n
  | _ => false

/-- What a table of mappings says about a number. -/
def mapIn? (table : List Nat) (n : Nat) : Option Nat :=
  match table with
  | first :: last :: step :: image :: rest =>
    if first ≤ n && n ≤ last && (n - first) % step == 0 then some (image + (n - first))
    else mapIn? rest n
  | _ => none

/-! ## Classes -/

/-- Capital letters of ASCII. -/
def isAsciiUpper (c : Char) : Bool := 'A' ≤ c && c ≤ 'Z'

/-- Small letters of ASCII. -/
def isAsciiLower (c : Char) : Bool := 'a' ≤ c && c ≤ 'z'

/-- Decimal digits of ASCII. -/
def isAsciiDigit (c : Char) : Bool := '0' ≤ c && c ≤ '9'

/-- Letters of ASCII. -/
def isAsciiLetter (c : Char) : Bool := isAsciiUpper c || isAsciiLower c

/-- Letters and decimal digits of ASCII. -/
def isAsciiAlphanumeric (c : Char) : Bool := isAsciiLetter c || isAsciiDigit c

/-- Letters and numbers of all scripts. -/
def isAlphanumeric (c : Char) : Bool :=
  if c.toNat < 0x80 then isAsciiAlphanumeric c else inTable alphanumericTable c.toNat

/-- Capital letters of all scripts. -/
def isUppercase (c : Char) : Bool :=
  if c.toNat < 0x80 then isAsciiUpper c else inTable uppercaseTable c.toNat

/-- Small letters of all scripts. -/
def isLowercase (c : Char) : Bool :=
  if c.toNat < 0x80 then isAsciiLower c else inTable lowercaseTable c.toNat

/-- Letters that have a case. -/
def isCased (c : Char) : Bool :=
  if c.toNat < 0x80 then isAsciiLetter c else inTable casedTable c.toNat

/-- Characters that are looked through when the end of a word is determined. -/
def isCaseIgnorable (c : Char) : Bool :=
  if c.toNat < 0x80 then ['\'', '.', ':', '^', '\x60'].contains c
  else inTable caseIgnorableTable c.toNat

/-- Blanks and line ends of all scripts. -/
def isBlank (c : Char) : Bool :=
  let n := c.toNat
  (9 ≤ n && n ≤ 13) || n == 0x20 || n == 0x85 || n == 0xA0 || n == 0x1680 ||
    (0x2000 ≤ n && n ≤ 0x200A) || n == 0x2028 || n == 0x2029 || n == 0x202F || n == 0x205F ||
    n == 0x3000

/-! ## Case mappings -/

/-- The capital form of an ASCII letter; any other character is kept. -/
def asciiUpper (c : Char) : Char := if isAsciiLower c then Char.ofNat (c.toNat - 32) else c

/-- The small form of an ASCII letter; any other character is kept. -/
def asciiLower (c : Char) : Char := if isAsciiUpper c then Char.ofNat (c.toNat + 32) else c

/-- The uppercase form of a character. -/
def upper (c : Char) : List Char :=
  if c.toNat < 0x80 then [asciiUpper c]
  else
    match longUpperTable.lookup c.toNat with
    | some image => image.map Char.ofNat
    | none => [((mapIn? upperTable c.toNat).map Char.ofNat).getD c]

/-- The lowercase form of a character by itself.  The capital I with a dot keeps its dot. -/
def lower (c : Char) : List Char :=
  if c.toNat < 0x80 then [asciiLower c]
  else if c.toNat = 0x130 then ['i', Char.ofNat 0x307]
  else [((mapIn? lowerTable c.toNat).map Char.ofNat).getD c]

/-- Whether a cased letter comes first, after characters that are looked through. -/
def beginsCased (text : List Char) : Bool :=
  match text.dropWhile isCaseIgnorable with
  | c :: _ => isCased c
  | [] => false

/-- Lowers the characters of a text.  `before` holds the characters on the left, the nearest
first.  A capital sigma becomes final after a cased letter and before none. -/
def lowerFrom (before text : List Char) : List Char :=
  match text with
  | [] => []
  | c :: rest =>
    let image :=
      if c.toNat = 0x3A3 then
        -- The neighbours are those in the text as it was, not as it is lowered.
        if beginsCased before && !beginsCased rest then [Char.ofNat 0x3C2] else [Char.ofNat 0x3C3]
      else lower c
    image ++ lowerFrom (c :: before) rest

/-- The lowercase form of a text. -/
def lowerText (text : List Char) : List Char := lowerFrom [] text

end ApiToolkit.Letter
