/-!
# Finding and replacing in a text

Operations on texts as lists of characters.

## What is inside

- `stripStart?`, `stripEnd?`: taking a known beginning or end away.
- `occursIn`, `replaceAll`: finding a text, and replacing its occurrences from the left.
- `splitBy`, `cutAtLast?`, `lines`, `joinWith`: cutting at separators and putting together again.
- `trimBy`, `trimStartBy`, `trimEndBy`: taking characters away at the ends.
-/

namespace ApiToolkit.Text

/-! ## Beginnings and ends -/

/-- The rest of `text` after `start`, if it begins so. -/
def stripStart? (start text : List Char) : Option (List Char) :=
  match start, text with
  | [], rest => some rest
  | _ :: _, [] => none
  | a :: start, b :: rest => if a = b then stripStart? start rest else none

/-- The part of `text` before `ending`, if it ends so. -/
def stripEnd? (ending text : List Char) : Option (List Char) :=
  (stripStart? ending.reverse text.reverse).map List.reverse

/-- Whether `text` begins with `start`. -/
def startsWith (start text : List Char) : Bool := (stripStart? start text).isSome

/-- Whether `text` ends with `ending`. -/
def endsWith (ending text : List Char) : Bool := (stripEnd? ending text).isSome

/-- The rest is what has to be put after the beginning. -/
theorem stripStart?_eq_some_iff {start text rest : List Char} :
    stripStart? start text = some rest ↔ text = start ++ rest := by
  induction start generalizing text with
  | nil => simp [stripStart?, eq_comm]
  | cons a start ih =>
    cases text with
    | nil => simp [stripStart?]
    | cons b text =>
      by_cases h : a = b
      · simp [stripStart?, h, ih]
      · simp [stripStart?, h, Ne.symm h]

/-! ## Occurrences -/

/-- Whether `pattern` occurs somewhere in `text`. -/
def occursIn (pattern text : List Char) : Bool :=
  startsWith pattern text ||
    match text with
    | [] => false
    | _ :: rest => occursIn pattern rest

/-- Replaces the occurrences of a non-empty pattern, found from left to right without overlap.
`skip` counts the characters of an occurrence that are still to be passed over. -/
def replaceFrom (pattern replacement : List Char) (skip : Nat) (text : List Char) : List Char :=
  match skip, text with
  | _, [] => []
  | n + 1, _ :: rest => replaceFrom pattern replacement n rest
  | 0, c :: rest =>
    if startsWith pattern (c :: rest) then
      replacement ++ replaceFrom pattern replacement (pattern.length - 1) rest
    else c :: replaceFrom pattern replacement 0 rest

/-- Replaces every occurrence of a non-empty pattern. -/
def replaceAll (pattern replacement text : List Char) : List Char :=
  replaceFrom pattern replacement 0 text

/-! ## Cutting and joining -/

/-- The parts between the characters that satisfy `isCut`; there is one part more than cuts. -/
def splitBy (isCut : Char → Bool) (text : List Char) : List (List Char) :=
  match text with
  | [] => [[]]
  | c :: rest =>
    if isCut c then [] :: splitBy isCut rest
    else
      match splitBy isCut rest with
      | [] => [[c]]
      | part :: parts => (c :: part) :: parts

/-- Cuts at the last occurrence of a character. -/
def cutAtLast? (c : Char) (text : List Char) : Option (List Char × List Char) :=
  match text with
  | [] => none
  | d :: rest =>
    match cutAtLast? c rest with
    | some (before, after) => some (d :: before, after)
    | none => if d = c then some ([], rest) else none

/-- The lines of a text.  A line ends at a line feed, or at a carriage return and a line feed;
after the last end there is no further line. -/
def lines (text : List Char) : List (List Char) :=
  let parts := splitBy (· == '\n') text
  let ended := parts.dropLast.map fun part => (stripEnd? ['\r'] part).getD part
  match parts.getLast? with
  | none | some [] => ended
  | some last => ended ++ [last]

/-- Puts texts together with a separator between them. -/
def joinWith (separator : List Char) (parts : List (List Char)) : List Char :=
  match parts with
  | [] => []
  | [part] => part
  | part :: next :: rest => part ++ separator ++ joinWith separator (next :: rest)

/-! ## Trimming -/

/-- Takes characters of a class away at the start. -/
def trimStartBy (isBlank : Char → Bool) (text : List Char) : List Char := text.dropWhile isBlank

/-- Takes characters of a class away at the end. -/
def trimEndBy (isBlank : Char → Bool) (text : List Char) : List Char :=
  (text.reverse.dropWhile isBlank).reverse

/-- Takes characters of a class away at both ends. -/
def trimBy (isBlank : Char → Bool) (text : List Char) : List Char :=
  trimEndBy isBlank (trimStartBy isBlank text)

end ApiToolkit.Text
