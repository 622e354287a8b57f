import ApiToolkit.Yaml.Cursor
/-!
# YAML scalars

A scalar is plain, quoted, or a block of lines.

## What is inside

- `Yaml.plain?`: scalars without quotes, which end where a mark of the structure begins.
- `Yaml.quoted?`: scalars in single or double quotes.
- `Yaml.block?`: scalars of whole lines.
-/

namespace ApiToolkit.Yaml

/-! ## Plain scalars -/

/-- Marks of the structure of a flow collection. -/
def isFlowMark (c : Char) : Bool := [',', '[', ']', '{', '}'].contains c

/-- The characters of a plain scalar up to a blank or a mark.  In a flow collection a colon before
a mark is refused. -/
def plainWord? (inFlow : Bool) (text : List Char) : Option (List Char) :=
  match text with
  | [] => some []
  | c :: rest =>
    let next := rest.head?
    if isSpace c then some []
    else if inFlow && c == ':' && (next.map fun d => isFlowMark d || d == '?').getD false then none
    else if (c == ':' && (next.map isSpace).getD true) || (inFlow && isFlowMark c) then some []
    else (plainWord? inFlow rest).map (c :: ·)

/-- Reads a plain scalar.  `indent` is the least column of further lines.  The result tells
whether the scalar was followed by a line end. -/
def plainFrom? (inFlow : Bool) (indent : Int) (steps : Nat) (read : List Char) (gap : Gap)
    (c : Cursor) : Option (List Char × Bool × Cursor) :=
  match steps with
  | 0 => none
  | n + 1 =>
    -- Here a blank stands before, so a number sign begins a comment.
    if c.atDocumentMark || c.sees 0 '#' then some (read, gap.isBroken, c)
    else
      match plainWord? inFlow c.rest with
      | none => none
      | some word =>
        let c := c.skip word.length
        let (read, gap) :=
          if word.isEmpty then (read, gap) else (read ++ gap.text ++ word, Gap.none)
        if !(c.atBlank || c.atBreak) then some (read, gap.isBroken, c)
        else
          match Gap.read indent c.rest.length gap c with
          | none => none
          | some (gap, c) =>
            -- A line further out belongs to a collection around the scalar.
            if !inFlow && (c.column : Int) < indent then some (read, gap.isBroken, c)
            else plainFrom? inFlow indent n read gap c

/-- Reads a plain scalar inside a collection with this indentation. -/
def plain? (inFlow : Bool) (indent : Int) (c : Cursor) : Option (List Char × Bool × Cursor) :=
  plainFrom? inFlow (indent + 1) (c.rest.length + 1) [] Gap.none c

/-! ## Quoted scalars -/

/-- The character for a letter after a reverse solidus. -/
def escapeLetter? : Char → Option Char
  | '0' => some '\x00'
  | 'a' => some '\x07'
  | 'b' => some '\x08'
  | 't' => some '\t'
  | '\t' => some '\t'
  | 'n' => some '\n'
  | 'v' => some '\x0b'
  | 'f' => some '\x0c'
  | 'r' => some '\r'
  | 'e' => some '\x1b'
  | ' ' => some ' '
  | '"' => some '"'
  | '/' => some '/'
  | '\\' => some '\\'
  | 'N' => some '\u0085'
  | '_' => some '\u00a0'
  | 'L' => some '\u2028'
  | 'P' => some '\u2029'
  | _ => none

/-- How many digits follow a letter after a reverse solidus. -/
def escapeWidth? : Char → Option Nat
  | 'x' => some 2
  | 'u' => some 4
  | 'U' => some 8
  | _ => none

/-- The character with a number in hexadecimal digits. -/
def codePoint? (digits : List Char) (width : Nat) : Option Char := do
  if digits.length ≠ width then none
  else
    let n ← Digit.number? 16 digits
    if (0xD800 ≤ n && n ≤ 0xDFFF) || n > 0x10FFFF then none else some (Char.ofNat n)

/-- What stands in quotes up to a blank or the closing quote, and whether an escaped line end
came after it. -/
def quotedWord? (isSingle : Bool) (steps : Nat) (c : Cursor) :
    Option (List Char × Bool × Cursor) :=
  match steps with
  | 0 => none
  | n + 1 =>
    match c.rest with
    | [] => some ([], false, c)
    | d :: rest =>
      let more (character : Char) (count : Nat) :=
        (quotedWord? isSingle n (c.skip count)).map fun (text, escaped, c) =>
          (character :: text, escaped, c)
      if isSpace d then some ([], false, c)
      else if isSingle then
        if d == '\'' then (if rest.head? == some '\'' then more '\'' 2 else some ([], false, c))
        else more d 1
      else if d == '"' then some ([], false, c)
      else if d == '\\' then
        match rest with
        | [] => none
        | e :: digits =>
          if isBreak e then some ([], true, (c.skip 1).skipBreak.2)
          else
            match escapeWidth? e with
            | some width =>
              (codePoint? (digits.take width) width).bind fun found => more found (width + 2)
            | none => (escapeLetter? e).bind fun found => more found 2
      else more d 1

/-- Reads a quoted scalar after its opening quote. -/
def quotedFrom? (isSingle : Bool) (steps : Nat) (read : List Char) (c : Cursor) :
    Option (List Char × Cursor) :=
  match steps with
  | 0 => none
  | n + 1 =>
    if c.atDocumentMark || c.atEnd then none
    else
      match quotedWord? isSingle (c.rest.length + 1) c with
      | none => none
      | some (word, escaped, c) =>
        let read := read ++ word
        if c.sees 0 (if isSingle then '\'' else '"') then some (read, c.skip 1)
        else
          match Gap.read 0 c.rest.length (if escaped then Gap.escaped else Gap.none) c with
          | none => none
          | some (gap, c) => quotedFrom? isSingle n (read ++ gap.text) c

/-- Reads a quoted scalar. -/
def quoted? (isSingle : Bool) (c : Cursor) : Option (List Char × Cursor) :=
  quotedFrom? isSingle (c.rest.length + 1) [] (c.skip 1)

/-! ## Blocks -/

/-- What is kept of the line ends after a block. -/
inductive Chomping where
  | strip
  | clip
  | keep
deriving DecidableEq

/-- The chomping for a mark. -/
def chompingOf? : Char → Option Chomping
  | '-' => some .strip
  | '+' => some .keep
  | _ => none

/-- A digit for the indentation, which may not be zero. -/
def indentDigit? (c : Cursor) : Option (Option Nat × Cursor) :=
  match c.rest with
  | d :: _ =>
    if d == '0' then none
    else if Letter.isAsciiDigit d then some (some (d.toNat - '0'.toNat), c.skip 1)
    else some (none, c)
  | [] => some (none, c)

/-- The marks after the sign of a block: chomping and indentation in any order. -/
def blockMarks? (c : Cursor) : Option (Chomping × Option Nat × Cursor) := do
  match (c.peek 0).bind chompingOf? with
  | some chomping =>
    let (digit, c) ← indentDigit? (c.skip 1)
    some (chomping, digit, c)
  | none =>
    let (digit, c) ← indentDigit? c
    match digit, (c.peek 0).bind chompingOf? with
    | some _, some chomping => some (chomping, digit, c.skip 1)
    | _, _ => some (.clip, digit, c)

/-- Reads indentation and empty lines.  Without a known indentation the widest one counts. -/
def blockBreaks? (indent : Option Nat) (steps widest : Nat) (breaks : List Char) (c : Cursor) :
    Option (List Char × Nat × Cursor) :=
  match steps with
  | 0 => none
  | n + 1 =>
    let inside (c : Cursor) : Bool := (indent.map fun i => decide (c.column < i)).getD true
    let spaces := (c.rest.takeWhile (· == ' ')).length
    let c := c.skip ((indent.map fun i => min spaces (i - c.column)).getD spaces)
    let widest := max widest c.column
    if inside c && c.sees 0 '\t' then none
    else if c.atBreak then
      let (lineEnd, c) := c.skipBreak
      blockBreaks? indent n widest (breaks ++ lineEnd) c
    else some (breaks, widest, c)

/-- A block being read. -/
structure Block where
  /-- The text so far. -/
  text : List Char
  /-- The end of the last line. -/
  lineEnd : List Char
  /-- The ends of the empty lines after it. -/
  breaks : List Char
  /-- Whether the last line began with a blank. -/
  isIndented : Bool

/-- Adds a line.  In a folded block a line end between two lines that do not begin with a blank
becomes a blank, unless empty lines follow. -/
def Block.add (b : Block) (isLiteral : Bool) (line lineEnd : List Char) : Block :=
  let isIndented := ((line.head?).map isBlank).getD false
  let lead :=
    if !isLiteral && b.lineEnd = ['\n'] && !b.isIndented && !isIndented then
      if b.breaks.isEmpty then [' '] else []
    else b.lineEnd
  ⟨b.text ++ lead ++ b.breaks ++ line, lineEnd, [], isIndented⟩

/-- Reads the lines of a block. -/
def blockLines? (isLiteral : Bool) (indent : Nat) (steps : Nat) (b : Block) (c : Cursor) :
    Option (Block × Cursor) :=
  match steps with
  | 0 => none
  | n + 1 =>
    if c.column ≠ indent || c.atEnd then some (b, c)
    else
      let (line, c) := c.skipWhile (!isBreak ·)
      let (lineEnd, c) := c.skipBreak
      match blockBreaks? (some indent) (c.rest.length + 1) 0 [] c with
      | none => none
      | some (breaks, _, c) =>
        blockLines? isLiteral indent n { b.add isLiteral line lineEnd with breaks := breaks } c

/-- The text of a block. -/
def Block.chomp (b : Block) (chomping : Chomping) : List Char :=
  match chomping with
  | .strip => b.text
  | .clip => b.text ++ b.lineEnd
  | .keep => b.text ++ b.lineEnd ++ b.breaks

/-- Reads a block inside a collection with this indentation. -/
def block? (isLiteral : Bool) (outer : Int) (c : Cursor) : Option (List Char × Cursor) := do
  let (chomping, digit, c) ← blockMarks? (c.skip 1)
  let c := c.skipBlanks.skipComment
  if !c.atLineEnd then none
  else
    let c := c.skipBreak.2
    let given := digit.map fun d => (max outer 0).toNat + d
    let (breaks, widest, c) ← blockBreaks? given (c.rest.length + 1) 0 [] c
    -- Without a digit the widest line before the first text tells the indentation.
    let indent := given.getD (max (max widest (outer + 1).toNat) 1)
    let (b, c) ← blockLines? isLiteral indent (c.rest.length + 1) ⟨[], [], breaks, false⟩ c
    some (b.chomp chomping, c)

end ApiToolkit.Yaml
