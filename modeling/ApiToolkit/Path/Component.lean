import ApiToolkit.Json.Writer
import ApiToolkit.Text.Letter
import ApiToolkit.Text.Percent
import ApiToolkit.Text.Search
/-!
# Components of paths

## What is inside

- `Path.encodeComponent`: a text as one component of an address.
- `Path.parameterText`: the text of a parameter value.
-/

namespace ApiToolkit.Path

/-- Characters that stand for themselves in a component. -/
def isUnreserved (c : Char) : Bool :=
  Letter.isAsciiAlphanumeric c ||
    ['-', '_', '.', '!', '~', '*', '\'', '(', ')'].contains c

/-- A text as one component of an address. -/
def encodeComponent (text : List Char) : List Char := Percent.encode isUnreserved text

mutual

/-- The text of a parameter value.  Strings are taken as they are, the elements of an array are
joined with commas, and any other value is written as JSON. -/
def parameterText : Json → List Char
  | .str text => text.toList
  | .arr items => Text.joinWith [','] (parameterTexts items)
  | other => Json.compactChars other

/-- The texts of several parameter values. -/
def parameterTexts : List Json → List (List Char)
  | [] => []
  | value :: rest => parameterText value :: parameterTexts rest

end

end ApiToolkit.Path
