import ApiToolkit.Json.Writer
import ApiToolkit.Text.Letter
import ApiToolkit.Text.Search
/-!
# Names in generated declarations

Service ids become prefixes of type names, compiler options become command-line flags, and
arbitrary keys become property keys.

## What is inside

- `Naming.words`: a text is cut at separators and where the case changes.
- `Naming.pascal`, `Naming.kebab`: the two ways of putting words together again.
- `Naming.isIdentifier`, `Naming.propertyKey`: keys that need no quotes, and all others.
- `Naming.serviceIdentifier`: the prefix of a service's type names, or why there is none.
-/

namespace ApiToolkit.Naming

open Letter

/-! ## Words -/

/-- Characters that words consist of; all others separate words. -/
def isWordChar (c : Char) : Bool := isAlphanumeric c || c == '$'

/-- Whether a word begins at `current`, between its neighbours.  It does where a capital letter
follows a small one, and at the last of several capital letters before a small one. -/
def beginsWord (previous current : Char) (next : Option Char) : Bool :=
  isUppercase current && (isLowercase previous || (isUppercase previous && next.any isLowercase))

/-- Cuts a text without separators where a word begins. -/
def humps (text : List Char) : List (List Char) :=
  match text with
  | [] => []
  | [c] => [[c]]
  | c :: d :: rest =>
    if beginsWord c d rest.head? then [c] :: humps (d :: rest)
    else
      match humps (d :: rest) with
      | [] => [[c]]
      | word :: words => (c :: word) :: words

/-- The words of a text. -/
def words (text : List Char) : List (List Char) :=
  (Text.splitBy (fun c => !isWordChar c) text).flatMap humps

/-! ## Putting words together -/

/-- A word with its first character in uppercase. -/
def capitalize : List Char → List Char
  | [] => []
  | c :: rest => upper c ++ rest

/-- The words of a text, capitalised and joined. -/
def pascal (text : List Char) : List Char := (words text).flatMap capitalize

/-- The words of a text in lowercase, joined by hyphens. -/
def kebab (text : List Char) : List Char := Text.joinWith ['-'] ((words text).map lowerText)

/-! ## Keys -/

/-- Characters that an identifier may begin with. -/
def isIdentifierStart (c : Char) : Bool := isAsciiLetter c || c == '_' || c == '$'

/-- Characters that an identifier may go on with. -/
def isIdentifierPart (c : Char) : Bool := isAsciiAlphanumeric c || c == '_' || c == '$'

/-- Whether a text is an identifier of ASCII characters. -/
def isIdentifier : List Char → Bool
  | [] => false
  | c :: rest => isIdentifierStart c && rest.all isIdentifierPart

/-- A property key: in quotes unless it is an identifier. -/
def propertyKey (name : List Char) : List Char :=
  if isIdentifier name then name else Json.quote name

/-! ## Services -/

/-- Why a service id has no type names. -/
inductive IdFault where
  /-- The id is empty. -/
  | empty
  /-- The first character that ids may not contain. -/
  | character (c : Char)
  /-- The type name would not be an identifier. -/
  | identifier (name : String)
deriving DecidableEq, Repr

/-- The explanation of a fault. -/
def IdFault.reason : IdFault → String
  | .empty => "service id cannot be empty"
  | .character c => "character '" ++ String.ofList [c] ++ "' is not allowed"
  | .identifier name => "'" ++ name ++ "' is not a valid TypeScript identifier"

/-- Characters that a service id may consist of. -/
def isIdChar (c : Char) : Bool := isAsciiAlphanumeric c || c == '-' || c == '_' || c == '.'

/-- The prefix of a service's type names. -/
def serviceIdentifier (id : String) : Except IdFault String :=
  let chars := id.toList
  if chars.isEmpty then .error .empty
  else
    -- Characters are checked before the form of the name.
    match chars.find? fun c => !isIdChar c with
    | some c => .error (.character c)
    | none =>
      let name := pascal chars
      if isIdentifier name then .ok (String.ofList name)
      else .error (.identifier (String.ofList name))

/-- The module that holds the declarations of a service. -/
def serviceModule (id : String) : String := "apiful/__" ++ id ++ "__"

end ApiToolkit.Naming
