import ApiToolkit.Text.Utf8
import ApiToolkit.Yaml.Scalar
/-!
# YAML tokens

A text is cut into tokens first.  The tokens say where collections begin and end, also those that
are marked by indentation alone, and where a mapping has a key.

## What is inside

- `Yaml.Token`: the tokens.
- `Yaml.Scan`: what is known about indentation and possible keys while tokens are read.
- `Yaml.tokens?`: the tokens of a text.

A key in a mapping need not be marked: it is known only when the colon after it is found.  The mark
is then put in before the key, so the tokens are kept in a list that can be changed in the middle.
-/

namespace ApiToolkit.Yaml

/-- A token. -/
inductive Token where
  | version (major minor : Nat)
  | tagRule (handle stem : List Char)
  | documentStart
  | documentEnd
  | streamEnd
  | blockSequenceStart
  | blockMappingStart
  | blockEnd
  | flowSequenceStart
  | flowSequenceEnd
  | flowMappingStart
  | flowMappingEnd
  | blockEntry
  | flowEntry
  | key
  | value
  | alias (name : List Char)
  | anchor (name : List Char)
  | tag (handle suffix : List Char)
  | scalar (text : List Char) (isPlain : Bool)
deriving DecidableEq

/-! ## Anchors, tags and directives -/

/-- The name of an anchor or alias after its mark. -/
def anchorName? (c : Cursor) : Option (List Char × Cursor) :=
  let (name, c) := (c.skip 1).skipWhile isWordChar
  let ends := c.spaceAt 0 ||
    ((c.peek 0).map fun d => ['?', ':', ',', ']', '}', '%', '@', '\x60'].contains d).getD false
  if name.isEmpty || !ends then none else some (name, c)

/-- Characters of tags. -/
def isTagChar (isVerbatim : Bool) (c : Char) : Bool :=
  isWordChar c ||
    [';', '/', '?', ':', '@', '&', '=', '+', '$', '.', '%', '!', '~', '*', '\'', '(', ')'].contains
      c ||
    (isVerbatim && [',', '[', ']'].contains c)

/-- The octets of escapes that follow each other, for one character.  `count` more are needed. -/
def escapedOctets? (count : Nat) (text : List Char) : Option (List UInt8 × List Char) :=
  match count with
  | 0 => some ([], text)
  | n + 1 =>
    match text with
    | '%' :: a :: b :: rest => do
      let high ← Digit.hexadecimal? a
      let low ← Digit.hexadecimal? b
      let (octets, rest) ← escapedOctets? n rest
      some ((high * 16 + low).toUInt8 :: octets, rest)
    | _ => none

/-- How many octets a character with this first octet has. -/
def octetCount? (first : Nat) : Option Nat :=
  if first < 0x80 then some 1
  else if 0xC0 ≤ first && first < 0xE0 then some 2
  else if 0xE0 ≤ first && first < 0xF0 then some 3
  else if 0xF0 ≤ first && first < 0xF8 then some 4
  else none

/-- The text of a tag, with escapes read. -/
def tagText? (isVerbatim : Bool) (steps : Nat) (c : Cursor) : Option (List Char × Cursor) :=
  match steps with
  | 0 => none
  | n + 1 =>
    match c.rest with
    | [] => some ([], c)
    | d :: _ =>
      if !isTagChar isVerbatim d then some ([], c)
      else if d == '%' then do
        let (first, _) ← escapedOctets? 1 c.rest
        let count ← octetCount? (first.headD 0).toNat
        let (octets, _) ← escapedOctets? count c.rest
        let character ← Utf8.decode? octets
        let (text, c) ← tagText? isVerbatim n (c.skip (3 * count))
        some (character.toList ++ text, c)
      else (tagText? isVerbatim n (c.skip 1)).map fun (text, c) => (d :: text, c)

/-- The handle of a tag: an exclamation mark, a word, and perhaps another exclamation mark. -/
def tagHandle? (c : Cursor) : Option (List Char × Cursor) :=
  if !c.sees 0 '!' then none
  else
    let (word, c) := (c.skip 1).skipWhile isWordChar
    if c.sees 0 '!' then some ('!' :: word ++ ['!'], c.skip 1) else some ('!' :: word, c)

/-- A tag: its handle and what follows the handle. -/
def tag? (inFlow : Bool) (c : Cursor) : Option (Token × Cursor) := do
  let (token, c) ←
    if c.sees 1 '<' then do
      let c := c.skip 2
      let (text, c) ← tagText? true (c.rest.length + 1) c
      if text.isEmpty || !c.sees 0 '>' then none else some (Token.tag [] text, c.skip 1)
    else do
      let (handle, c) ← tagHandle? c
      let (text, c) ← tagText? false (c.rest.length + 1) c
      if handle.length > 1 && handle.getLast? == some '!' then
        if text.isEmpty then none else some (Token.tag handle text, c)
      else
        match handle.drop 1 ++ text with
        | [] => some (Token.tag [] ['!'], c)
        | suffix => some (Token.tag ['!'] suffix, c)
  if (inFlow && c.sees 0 ',') || c.spaceAt 0 then some (token, c) else none

/-- A number of a version. -/
def versionNumber? (c : Cursor) : Option (Nat × Cursor) :=
  let (digits, c) := c.skipWhile Letter.isAsciiDigit
  if digits.isEmpty || digits.length > 9 then none
  else (Digit.number? 10 digits).map fun n => (n, c)

/-- The rest of a line that may hold only blanks and a comment. -/
def restOfLine? (c : Cursor) : Option Cursor :=
  let c := c.skipBlanks.skipComment
  if c.atLineEnd then some c.skipBreak.2 else none

/-- A directive after its percent sign. -/
def directive? (c : Cursor) : Option (Token × Cursor) := do
  let (name, c) := (c.skip 1).skipWhile isWordChar
  if name.isEmpty || !c.spaceAt 0 then none
  else
    let c := c.skipBlanks
    let (token, c) ←
      if name = "YAML".toList then do
        let (major, c) ← versionNumber? c
        if !c.sees 0 '.' then none
        else
          let (minor, c) ← versionNumber? (c.skip 1)
          some (Token.version major minor, c)
      else if name = "TAG".toList then do
        let (handle, c) ← tagHandle? c
        if handle ≠ ['!'] && handle.getLast? ≠ some '!' then none
        else if !c.atBlank then none
        else
          let c := c.skipBlanks
          let (stem, c) ← tagText? true (c.rest.length + 1) c
          if stem.isEmpty || !c.spaceAt 0 then none else some (Token.tagRule handle stem, c)
      else none
    let c ← restOfLine? c
    some (token, c)

/-! ## The state of the scan -/

/-- A place where a key may have begun. -/
structure Candidate where
  /-- How many tokens there were. -/
  tokens : Nat
  /-- The position in the text. -/
  index : Nat
  /-- The line. -/
  line : Nat
  /-- The column. -/
  column : Nat
  /-- Whether there has to be a key. -/
  isRequired : Bool

/-- What is known while tokens are read. -/
structure Scan where
  /-- The position. -/
  cursor : Cursor
  /-- The tokens so far, the last one first. -/
  tokens : List Token
  /-- The column of the innermost block collection, or -1. -/
  indent : Int
  /-- The columns of the block collections around it. -/
  outer : List Int
  /-- Whether a key may begin here. -/
  keyAllowed : Bool
  /-- Where a key may have begun: for the innermost flow collection, and for those around it. -/
  candidates : List (Option Candidate)

namespace Scan

/-- Whether a flow collection is open. -/
def inFlow (s : Scan) : Bool := s.candidates.length > 1

/-- Adds a token. -/
def emit (s : Scan) (token : Token) : Scan := { s with tokens := token :: s.tokens }

/-- Puts a token in after the first `count` tokens. -/
def insert (s : Scan) (count : Nat) (token : Token) : Scan :=
  -- The tokens are in reverse, so the last ones stand first.
  let later := s.tokens.length - count
  { s with tokens := s.tokens.take later ++ token :: s.tokens.drop later }

/-- Moves on. -/
def moveTo (s : Scan) (c : Cursor) : Scan := { s with cursor := c }

/-- Ends the block collections that are indented further than a column. -/
def unroll (s : Scan) (column : Int) : Scan :=
  if s.inFlow then s
  else
    let columns := s.indent :: s.outer
    let closed := columns.takeWhile (· > column)
    match columns.drop closed.length with
    | [] => s
    | indent :: outer =>
      { s with
        indent := indent
        outer := outer
        tokens := List.replicate closed.length Token.blockEnd ++ s.tokens }

/-- Begins a block collection after the first `count` tokens, if a column is further in than the
collection around it. -/
def roll (s : Scan) (column count : Nat) (token : Token) : Scan :=
  if s.inFlow || (column : Int) ≤ s.indent then s
  else { s.insert count token with indent := column, outer := s.indent :: s.outer }

/-- Gives up the place where a key may have begun.  It is an error if there has to be one. -/
def dropCandidate? (s : Scan) : Option Scan :=
  match s.candidates with
  | [] => some s
  | candidate :: others =>
    if (candidate.map Candidate.isRequired).getD false then none
    else some { s with candidates := none :: others }

/-- Remembers that a key may begin here. -/
def saveCandidate? (s : Scan) : Option Scan :=
  if !s.keyAllowed then some s
  else do
    let s ← s.dropCandidate?
    let c := s.cursor
    let candidate : Candidate :=
      ⟨s.tokens.length, c.index, c.line, c.column, !s.inFlow && s.indent == (c.column : Int)⟩
    some { s with candidates := some candidate :: s.candidates.drop 1 }

/-- Whether a place is too far back for a key: on an earlier line, or more than 1024 characters
back. -/
def isStale (s : Scan) (candidate : Candidate) : Bool :=
  candidate.line < s.cursor.line || candidate.index + 1024 < s.cursor.index

/-- Gives up all places that are too far back. -/
def dropStale? (s : Scan) : Option Scan :=
  let isStale (candidate : Option Candidate) : Bool := (candidate.map s.isStale).getD false
  if s.candidates.any fun x => isStale x && (x.map Candidate.isRequired).getD false then none
  else some { s with candidates := s.candidates.map fun x => if isStale x then none else x }

/-- Passes over blanks, comments and line ends.  Outside flow collections a key may begin on a new
line. -/
def skipToToken (steps : Nat) (s : Scan) : Scan :=
  match steps with
  | 0 => s
  | n + 1 =>
    -- Where a key may begin, a tab is no indentation.
    let tabs := s.inFlow || !s.keyAllowed
    let c := (s.cursor.skipWhile fun d => d == ' ' || (tabs && d == '\t')).2.skipComment
    if c.atBreak then
      skipToToken n
        { s with cursor := c.skipBreak.2, keyAllowed := s.keyAllowed || !s.inFlow }
    else s.moveTo c

/-! ## Tokens -/

/-- Ends all block collections, before something that stands for a whole document. -/
def closeAll? (s : Scan) : Option Scan := do
  let s ← (s.unroll (-1)).dropCandidate?
  some { s with keyAllowed := false }

/-- A token for the beginning of a flow collection. -/
def openFlow? (s : Scan) (token : Token) : Option Scan := do
  let s ← s.saveCandidate?
  some { s.emit token with
    cursor := s.cursor.skip 1, candidates := none :: s.candidates, keyAllowed := true }

/-- A token for the end of a flow collection. -/
def closeFlow? (s : Scan) (token : Token) : Option Scan := do
  let s ← s.dropCandidate?
  some { s.emit token with
    cursor := s.cursor.skip 1
    candidates := if s.inFlow then s.candidates.drop 1 else s.candidates
    keyAllowed := false }

/-- A comma. -/
def flowEntry? (s : Scan) : Option Scan := do
  let s ← s.dropCandidate?
  some { s.emit .flowEntry with cursor := s.cursor.skip 1, keyAllowed := true }

/-- A hyphen before an element. -/
def blockEntry? (s : Scan) : Option Scan := do
  let s ←
    if s.inFlow then some s
    else if !s.keyAllowed then none
    else some (s.roll s.cursor.column s.tokens.length .blockSequenceStart)
  let s ← s.dropCandidate?
  some { s.emit .blockEntry with cursor := s.cursor.skip 1, keyAllowed := true }

/-- A question mark before a key. -/
def explicitKey? (s : Scan) : Option Scan := do
  let s ←
    if s.inFlow then some s
    else if !s.keyAllowed then none
    else some (s.roll s.cursor.column s.tokens.length .blockMappingStart)
  let s ← s.dropCandidate?
  some { s.emit .key with cursor := s.cursor.skip 1, keyAllowed := !s.inFlow }

/-- A colon before a value. -/
def colon? (s : Scan) : Option Scan := do
  let s ←
    match s.candidates with
    | some candidate :: others =>
      -- Only the colon shows that a key came before it, so the token for the key is put in late.
      let s := s.insert candidate.tokens .key
      let s := s.roll candidate.column candidate.tokens .blockMappingStart
      some { s with candidates := none :: others, keyAllowed := false }
    | _ =>
      if s.inFlow then some { s with keyAllowed := false }
      else if !s.keyAllowed then none
      else some (s.roll s.cursor.column s.tokens.length .blockMappingStart)
  some { s.emit .value with cursor := s.cursor.skip 1 }

/-- A token that a key may begin with. -/
def node? (s : Scan) (read : Cursor → Option (Token × Cursor)) : Option Scan := do
  let s ← s.saveCandidate?
  let (token, c) ← read s.cursor
  some { s.emit token with cursor := c, keyAllowed := false }

/-- A plain scalar.  A key may begin after it if a line end followed. -/
def plainNode? (s : Scan) : Option Scan := do
  let s ← s.saveCandidate?
  let (text, wasBroken, c) ← plain? s.inFlow s.indent s.cursor
  some { s.emit (.scalar text true) with cursor := c, keyAllowed := wasBroken }

/-- A block. -/
def blockNode? (s : Scan) (isLiteral : Bool) : Option Scan := do
  let s ← s.dropCandidate?
  let (text, c) ← block? isLiteral s.indent s.cursor
  some { s.emit (.scalar text false) with cursor := c, keyAllowed := true }

/-- Whether a plain scalar may begin with the next character. -/
def plainBegins (s : Scan) : Bool :=
  match s.cursor.peek 0 with
  | none => false
  | some c =>
    !(isSpace c ||
        ['-', '?', ':', ',', '[', ']', '{', '}', '#', '&', '*', '!', '|', '>', '\'', '"', '%', '@',
          '\x60'].contains c) ||
      (c == '-' && !((s.cursor.peek 1).map isBlank).getD false) ||
      (!s.inFlow && (c == '?' || c == ':') && !s.cursor.spaceAt 1)

/-- Reads the token at the cursor, which is not at the end. -/
def token? (s : Scan) : Option Scan :=
  let c := s.cursor
  let markAt (mark : Char) : Bool := c.sees 0 mark && (s.inFlow || c.spaceAt 1)
  if c.column == 0 && c.sees 0 '%' then do
    let s ← s.closeAll?
    let (token, c) ← directive? s.cursor
    some ((s.emit token).moveTo c)
  else if c.marksDocument '-' then
    s.closeAll?.map fun s => (s.emit .documentStart).moveTo (s.cursor.skip 3)
  else if c.marksDocument '.' then
    s.closeAll?.map fun s => (s.emit .documentEnd).moveTo (s.cursor.skip 3)
  else if c.sees 0 '[' then s.openFlow? .flowSequenceStart
  else if c.sees 0 '{' then s.openFlow? .flowMappingStart
  else if c.sees 0 ']' then s.closeFlow? .flowSequenceEnd
  else if c.sees 0 '}' then s.closeFlow? .flowMappingEnd
  else if c.sees 0 ',' then s.flowEntry?
  -- A hyphen, question mark or colon is a mark only before a blank; within flow collections the
  -- latter two always are.
  else if c.sees 0 '-' && c.spaceAt 1 then s.blockEntry?
  else if markAt '?' then s.explicitKey?
  else if markAt ':' then s.colon?
  else if c.sees 0 '*' then
    s.node? fun c => (anchorName? c).map fun (name, c) => (.alias name, c)
  else if c.sees 0 '&' then
    s.node? fun c => (anchorName? c).map fun (name, c) => (.anchor name, c)
  else if c.sees 0 '!' then s.node? (tag? s.inFlow)
  else if c.sees 0 '|' && !s.inFlow then s.blockNode? true
  else if c.sees 0 '>' && !s.inFlow then s.blockNode? false
  else if c.sees 0 '\'' then
    s.node? fun c => (quoted? true c).map fun (text, c) => (.scalar text false, c)
  else if c.sees 0 '"' then
    s.node? fun c => (quoted? false c).map fun (text, c) => (.scalar text false, c)
  else if s.plainBegins then s.plainNode?
  else none

/-- Reads all tokens. -/
def all? (steps : Nat) (s : Scan) : Option (List Token) :=
  match steps with
  | 0 => none
  | n + 1 => do
    let s ← (s.skipToToken (s.cursor.rest.length + 1)).dropStale?
    -- A token further out ends the collections that it does not belong to.
    let s := s.unroll s.cursor.column
    if s.cursor.atEnd then
      let s ← s.closeAll?
      some (s.emit .streamEnd).tokens.reverse
    else
      let s ← s.token?
      all? n s

end Scan

/-- The text without a byte order mark. -/
def withoutMark (text : List Char) : List Char :=
  match text with
  | c :: rest => if c.toNat = 0xFEFF then rest else c :: rest
  | [] => []

/-- The tokens of a text. -/
def tokens? (text : List Char) : Option (List Token) :=
  let text := withoutMark text
  if text.all isAllowed then
    Scan.all? (text.length + 2) ⟨⟨text, 0, 0, 0⟩, [], -1, [], true, [none]⟩
  else none

end ApiToolkit.Yaml
