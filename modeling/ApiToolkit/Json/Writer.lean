import ApiToolkit.Json.Basic
import ApiToolkit.Number.Decimal
/-!
# JSON texts

Values are written compactly, or with an indentation of two blanks.

## What is inside

- `Json.quote`: a string in quotes, with escapes only where JSON demands them.
- `Json.numberLayout`, `Json.Number.text`: how numbers are written.
- `Json.compact`, `Json.pretty`: the two layouts of a value.
-/

namespace ApiToolkit.Json

/-! ## Strings -/

/-- A lowercase hexadecimal digit. -/
def hexDigit (n : Nat) : Char := Nat.digitChar n

/-- What is written for one character of a string.  Quotes, reverse solidi and control characters
are escaped, and nothing else is. -/
def escapeChar (c : Char) : List Char :=
  if c = '"' then ['\\', '"']
  else if c = '\\' then ['\\', '\\']
  else if c = '\n' then ['\\', 'n']
  else if c = '\r' then ['\\', 'r']
  else if c = '\t' then ['\\', 't']
  else if c = '\x08' then ['\\', 'b']
  else if c = '\x0c' then ['\\', 'f']
  else if c.toNat < 0x20 then
    ['\\', 'u', '0', '0', hexDigit (c.toNat / 16), hexDigit (c.toNat % 16)]
  else [c]

/-- A string in quotes. -/
def quote (text : List Char) : List Char := '"' :: text.flatMap escapeChar ++ ['"']

/-! ## Numbers -/

/-- Numbers from 0.00001 up to below 10000000000000000 are written by position. -/
def numberLayout : Decimal.Layout := ⟨-5, 15⟩

/-- The digits of an integer, after a minus sign if it is negative. -/
def intText (n : Int) : List Char :=
  (if n < 0 then ['-'] else []) ++ Decimal.natText n.natAbs

/-- The text of a number. -/
def Number.text : Number → List Char
  | .integer value => intText value
  | .float value => if value.isFinite then numberLayout.text value else "null".toList

/-! ## Values -/

mutual

/-- The text of a value without blanks. -/
def compactChars : Json → List Char
  | .null => "null".toList
  | .bool true => "true".toList
  | .bool false => "false".toList
  | .num value => value.text
  | .str value => quote value.toList
  | .arr items => '[' :: compactItems items ++ [']']
  | .obj entries => '{' :: compactEntries entries ++ ['}']

/-- List elements, with commas between them. -/
def compactItems : List Json → List Char
  | [] => []
  | [item] => compactChars item
  | item :: next :: rest => compactChars item ++ ',' :: compactItems (next :: rest)

/-- Object entries, with commas between them. -/
def compactEntries : List (String × Json) → List Char
  | [] => []
  | [(key, value)] => quote key.toList ++ ':' :: compactChars value
  | (key, value) :: next :: rest =>
    quote key.toList ++ ':' :: compactChars value ++ ',' :: compactEntries (next :: rest)

end

/-- The text of a value without blanks. -/
def compact (value : Json) : String := String.ofList (compactChars value)

/-- A line end and an indentation. -/
def newline (depth : Nat) : List Char := '\n' :: List.replicate (2 * depth) ' '

mutual

/-- The text of a value with one line for each element and entry. -/
def prettyChars (depth : Nat) : Json → List Char
  | .arr [] => "[]".toList
  | .obj [] => "\x7b\x7d".toList
  | .arr (item :: rest) => '[' :: prettyItems (depth + 1) (item :: rest) ++ newline depth ++ [']']
  | .obj (entry :: rest) =>
    '{' :: prettyEntries (depth + 1) (entry :: rest) ++ newline depth ++ ['}']
  | .null => "null".toList
  | .bool true => "true".toList
  | .bool false => "false".toList
  | .num value => value.text
  | .str value => quote value.toList

/-- List elements on lines of their own. -/
def prettyItems (depth : Nat) : List Json → List Char
  | [] => []
  | [item] => newline depth ++ prettyChars depth item
  | item :: next :: rest =>
    newline depth ++ prettyChars depth item ++ ',' :: prettyItems depth (next :: rest)

/-- Object entries on lines of their own. -/
def prettyEntries (depth : Nat) : List (String × Json) → List Char
  | [] => []
  | [(key, value)] => newline depth ++ quote key.toList ++ ':' :: ' ' :: prettyChars depth value
  | (key, value) :: next :: rest =>
    newline depth ++ quote key.toList ++ ':' :: ' ' :: prettyChars depth value ++
      ',' :: prettyEntries depth (next :: rest)

end

/-- The text of a value, indented by two blanks at each depth. -/
def pretty (value : Json) : String := String.ofList (prettyChars 0 value)

end ApiToolkit.Json
