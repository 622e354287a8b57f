import ApiToolkit.Text.Letter
import ApiToolkit.Json.Reader
/-!
# Positions in a YAML text

Indentation and line ends matter in YAML, so the text that is left is kept together with its
position.

## What is inside

- `Yaml.isAllowed`, `Yaml.isBreak`, `Yaml.isBlank`: the classes of characters.
- `Yaml.Cursor`: the text that is left, and its line and column.
- `Yaml.Gap`: blanks and line ends between two words, and what they are folded to.
-/

namespace ApiToolkit.Yaml

/-! ## Characters -/

/-- Characters that a YAML text may contain. -/
def isAllowed (c : Char) : Bool :=
  let n := c.toNat
  n == 0x09 || n == 0x0A || n == 0x0D || (0x20 ≤ n && n ≤ 0x7E) || n == 0x85 ||
    (0xA0 ≤ n && n ≤ 0xFFFD) || 0x10000 ≤ n

/-- Line ends. -/
def isBreak (c : Char) : Bool :=
  let n := c.toNat
  n == 0x0A || n == 0x0D || n == 0x85 || n == 0x2028 || n == 0x2029

/-- Blanks within a line. -/
def isBlank (c : Char) : Bool := c == ' ' || c == '\t'

/-- Blanks of any kind. -/
def isSpace (c : Char) : Bool := isBlank c || isBreak c

/-- Characters of anchors, handles and directive names. -/
def isWordChar (c : Char) : Bool := Letter.isAsciiAlphanumeric c || c == '_' || c == '-'

/-! ## Positions -/

/-- The text that is left, and where it begins. -/
structure Cursor where
  /-- The text that is left. -/
  rest : List Char
  /-- How many characters were read. -/
  index : Nat
  /-- How many lines were read. -/
  line : Nat
  /-- How many characters of the line were read. -/
  column : Nat

namespace Cursor

/-- The character at a distance. -/
def peek (c : Cursor) (distance : Nat) : Option Char := c.rest[distance]?

/-- Whether the character at a distance is this one. -/
def sees (c : Cursor) (distance : Nat) (expected : Char) : Bool := c.peek distance == some expected

/-- Whether a blank, a line end or the end of the text is at a distance. -/
def spaceAt (c : Cursor) (distance : Nat) : Bool := ((c.peek distance).map isSpace).getD true

/-- Whether a line end or the end of the text is next. -/
def atLineEnd (c : Cursor) : Bool := ((c.peek 0).map isBreak).getD true

/-- Whether a blank is next. -/
def atBlank (c : Cursor) : Bool := ((c.peek 0).map isBlank).getD false

/-- Whether a line end is next. -/
def atBreak (c : Cursor) : Bool := ((c.peek 0).map isBreak).getD false

/-- Whether the text is at its end. -/
def atEnd (c : Cursor) : Bool := c.rest.isEmpty

/-- Passes over characters within a line. -/
def skip (c : Cursor) (count : Nat) : Cursor :=
  ⟨c.rest.drop count, c.index + count, c.line, c.column + count⟩

/-- Passes over a line end.  What it stands for in a scalar comes with it. -/
def skipBreak (c : Cursor) : List Char × Cursor :=
  match c.rest with
  | '\r' :: '\n' :: rest => (['\n'], ⟨rest, c.index + 2, c.line + 1, 0⟩)
  | b :: rest =>
    if isBreak b then
      (if b.toNat < 0x2028 then ['\n'] else [b], ⟨rest, c.index + 1, c.line + 1, 0⟩)
    else ([], c)
  | [] => ([], c)

/-- Passes over characters of a class within a line. -/
def skipWhile (c : Cursor) (test : Char → Bool) : List Char × Cursor :=
  let found := c.rest.takeWhile test
  (found, c.skip found.length)

/-- Passes over blanks within a line. -/
def skipBlanks (c : Cursor) : Cursor := (c.skipWhile isBlank).2

/-- Passes over a comment, if there is one. -/
def skipComment (c : Cursor) : Cursor :=
  if c.sees 0 '#' then (c.skipWhile (!isBreak ·)).2 else c

/-- Whether three equal characters at the start of a line mark a document's start or end. -/
def marksDocument (c : Cursor) (mark : Char) : Bool :=
  c.column == 0 && c.sees 0 mark && c.sees 1 mark && c.sees 2 mark && c.spaceAt 3

/-- Whether a document's start or end is marked here. -/
def atDocumentMark (c : Cursor) : Bool := c.marksDocument '-' || c.marksDocument '.'

end Cursor

/-! ## Folding -/

/-- Blanks and line ends between two words. -/
structure Gap where
  /-- The blanks before the first line end. -/
  blanks : List Char
  /-- Whether there was a line end. -/
  isBroken : Bool
  /-- The first line end. -/
  first : List Char
  /-- The other line ends. -/
  others : List Char

namespace Gap

/-- No blanks. -/
def none : Gap := ⟨[], false, [], []⟩

/-- The gap after a line end that was escaped. -/
def escaped : Gap := ⟨[], true, [], []⟩

/-- What stands for the gap: a single line end becomes a blank, and of several the first is left
out. -/
def text (g : Gap) : List Char :=
  if !g.isBroken then g.blanks
  else if g.first = ['\n'] then (if g.others.isEmpty then [' '] else g.others)
  else g.first ++ g.others

/-- Reads blanks and line ends.  After a line end no tab may stand before the column `indent`. -/
def read (indent : Int) (steps : Nat) (g : Gap) (c : Cursor) : Option (Gap × Cursor) :=
  match steps with
  | 0 => some (g, c)
  | n + 1 =>
    if c.atBlank then
      if g.isBroken then
        if (c.column : Int) < indent && c.sees 0 '\t' then Option.none
        else read indent n g (c.skip 1)
      else read indent n { g with blanks := g.blanks ++ c.rest.take 1 } (c.skip 1)
    else if c.atBreak then
      let (lineEnd, c) := c.skipBreak
      if g.isBroken then read indent n { g with others := g.others ++ lineEnd } c
      else read indent n { g with isBroken := true, first := lineEnd } c
    else some (g, c)

end Gap

end ApiToolkit.Yaml
