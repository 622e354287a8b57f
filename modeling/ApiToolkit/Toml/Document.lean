import ApiToolkit.Toml.Scalar
import ApiToolkit.Toml.Table
/-!
# TOML documents

## What is inside

- `Toml.key?`, `Toml.value?`: dotted keys and values.
- `Toml.statement?`: one line, or several of them if a value goes over several lines.
- `Toml.parse?`: the value of a text.
-/

namespace ApiToolkit.Toml

/-! ## Keys -/

/-- Characters of keys without quotes. -/
def isBareChar (c : Char) : Bool := Letter.isAsciiAlphanumeric c || c == '-' || c == '_'

/-- A key without dots. -/
def simpleKey? (text : List Char) : Option (String × List Char) :=
  match text with
  | '"' :: _ | '\'' :: _ => shortString? text
  | _ =>
    let key := text.takeWhile isBareChar
    if key.isEmpty then none else some (String.ofList key, text.drop key.length)

/-- A key has fewer parts than this, and values are nested less deep. -/
def depthLimit : Nat := 80

/-- A key: the parts before the last one, and the last one.  `steps` bounds their number. -/
def key? (steps : Nat) (text : List Char) : Option (List String × String × List Char) :=
  match steps with
  | 0 => none
  | n + 1 => do
    let (part, rest) ← simpleKey? (skipBlanks text)
    match skipBlanks rest with
    | '.' :: more => do
      let (path, last, rest) ← key? n more
      some (part :: path, last, rest)
    | rest => some ([], part, rest)

/-- A key within the limit. -/
def dottedKey? (text : List Char) : Option (List String × String × List Char) :=
  key? (depthLimit - 1) text

/-! ## Values -/

/-- The key under which a value keeps the text of a date or time. -/
def dateTimeKey : String := "$__toml_private_datetime"

/-- The elements of an array after its opening bracket.  A comma may follow the last one.
`steps` bounds their number. -/
def elements? (value? : List Char → Option (Json × List Char)) (steps : Nat)
    (text : List Char) : Option (List Json × List Char) :=
  match steps with
  | 0 => none
  | n + 1 => do
    match ← layout? false text with
    | ']' :: rest => some ([], rest)
    | rest => do
      let (element, rest) ← value? rest
      match ← layout? false rest with
      | ',' :: rest => do
        let (elements, rest) ← elements? value? n rest
        some (element :: elements, rest)
      | ']' :: rest => some ([element], rest)
      | _ => none

/-- A key and its value. -/
def pair? (value? : List Char → Option (Json × List Char)) (text : List Char) :
    Option ((List String × String × Json) × List Char) := do
  let (path, key, rest) ← dottedKey? text
  let rest ← mark? '=' rest
  let (value, rest) ← value? (skipBlanks rest)
  some ((path, key, value), rest)

/-- The entries of an inline table after its opening brace, written into a table.  No comma may
follow the last one.  `steps` bounds their number. -/
def inlineEntries? (value? : List Char → Option (Json × List Char)) (steps : Nat)
    (table : Table) (text : List Char) : Option (Table × List Char) :=
  match steps with
  | 0 => none
  | n + 1 => do
    let ((path, key, value), rest) ← pair? value? text
    let table ← table.insert? path key value
    match skipBlanks rest with
    | ',' :: rest => inlineEntries? value? n table rest
    | '}' :: rest => some (table, rest)
    | _ => none

/-- Whether a number or a date may begin with a character. -/
def beginsNumber (c : Char) : Bool :=
  Letter.isAsciiDigit c || c == '+' || c == '-' || c == 'i' || c == 'n'

/-- A value.  Arrays and inline tables may be nested `depth` deep. -/
def value? (depth : Nat) (text : List Char) : Option (Json × List Char) :=
  match text with
  | '"' :: _ | '\'' :: _ => (string? text).map fun (s, rest) => (.str s, rest)
  | 't' :: 'r' :: 'u' :: 'e' :: rest => some (.bool true, rest)
  | 'f' :: 'a' :: 'l' :: 's' :: 'e' :: rest => some (.bool false, rest)
  | '[' :: rest =>
    match depth with
    | 0 => none
    | d + 1 =>
      (elements? (value? d) (rest.length + 1) rest).map fun (l, rest) => (.arr l, rest)
  | '{' :: rest =>
    match depth with
    | 0 => none
    | d + 1 =>
      match skipBlanks rest with
      | '}' :: rest => some (.obj [], rest)
      | rest =>
        (inlineEntries? (value? d) (rest.length + 1) (.stated []) rest).map fun (t, rest) =>
          (t.toJson, rest)
  | c :: _ =>
    -- A date begins with digits as a number does, so it is looked for first.
    if beginsTime text || beginsDate text then
      (dateTime? text).map fun (t, rest) => (.obj [(dateTimeKey, .str (String.ofList t))], rest)
    else if beginsNumber c then number? text
    else none
  | [] => none

/-! ## Statements -/

/-- What a part of a text says. -/
inductive Statement where
  /-- The header of a table. -/
  | header (path : List String) (key : String)
  /-- The header of an element of an array of tables. -/
  | element (path : List String) (key : String)
  /-- A key and its value. -/
  | pair (path : List String) (key : String) (value : Json)

/-- Reads one statement and the end of its line.  A line without one gives none. -/
def statement? (text : List Char) : Option (Option Statement × List Char) :=
  match text with
  | '[' :: '[' :: rest => do
    let (path, key, rest) ← dottedKey? rest
    let rest ← mark? ']' rest
    let rest ← mark? ']' rest
    let rest ← lineTail? rest
    some (some (.element path key), rest)
  | '[' :: rest => do
    let (path, key, rest) ← dottedKey? rest
    let rest ← mark? ']' rest
    let rest ← lineTail? rest
    some (some (.header path key), rest)
  | '#' :: _ | '\n' :: _ | '\r' :: _ => (lineTail? text).map fun rest => (none, rest)
  | _ => do
    let ((path, key, value), rest) ← pair? (value? (depthLimit - 1)) text
    let rest ← lineTail? rest
    some (some (.pair path key value), rest)

/-- Reads all statements.  `steps` bounds their number. -/
def statements? (steps : Nat) (text : List Char) : Option (List Statement) :=
  match steps, skipBlanks text with
  | _, [] => some []
  | 0, _ => none
  | n + 1, text => do
    let (statement, rest) ← statement? text
    let statements ← statements? n rest
    some (statement.toList ++ statements)

/-! ## Documents -/

/-- The whole tree, and where the last header leads to. -/
structure Draft where
  /-- The tree. -/
  root : Table
  /-- The path of the last header. -/
  place : List String

/-- Carries a statement out. -/
def Draft.take? (draft : Draft) : Statement → Option Draft
  | .header path key => (draft.root.open? path key).map fun root => ⟨root, path ++ [key]⟩
  | .element path key => (draft.root.openElement? path key).map fun root => ⟨root, path ++ [key]⟩
  | .pair path key value =>
    (draft.root.within? false (·.insert? path key value) draft.place).map fun root =>
      ⟨root, draft.place⟩

/-- The text without the mark that some editors put before it. -/
def dropMark (text : List Char) : List Char :=
  match text with
  | c :: rest => if c.toNat = 0xFEFF then rest else c :: rest
  | [] => []

/-- The value of a text: an object.  Dates and times are objects that keep their text under
`dateTimeKey`, and infinite and undefined numbers are null. -/
def parse? (text : String) : Option Json := do
  let chars := dropMark text.toList
  let statements ← statements? (chars.length + 1) chars
  let draft ← statements.foldlM Draft.take? ⟨.stated [], []⟩
  some draft.root.toJson

end ApiToolkit.Toml
