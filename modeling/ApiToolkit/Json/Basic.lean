import ApiToolkit.Entries
import ApiToolkit.Number.Binary64
/-!
# JSON values

The documents, samples, options and configuration data of this library are JSON values.  Objects
keep the order of their keys.

## What is inside

- `Json.Number`: integers are kept apart from double-precision numbers.
- `Json`: the value tree, with the views that read one kind of value.
- `Json.collapse`: the tree in which no object repeats a key.
-/

namespace ApiToolkit

/-- A number of a JSON text. -/
inductive Json.Number where
  /-- A number written without a fraction and without an exponent. -/
  | integer (value : Int)
  /-- Any other number. -/
  | float (value : Binary64)
deriving DecidableEq, Repr

/-- A JSON value. -/
inductive Json where
  | null
  | bool (value : Bool)
  | num (value : Json.Number)
  | str (value : String)
  | arr (items : List Json)
  | obj (entries : List (String × Json))
deriving Repr, Inhabited

namespace Json

/-! ## Views -/

/-- The truth value of a Boolean. -/
def asBool? : Json → Option Bool
  | .bool value => some value
  | _ => none

/-- The text of a string. -/
def asString? : Json → Option String
  | .str value => some value
  | _ => none

/-- The value of an integer. -/
def asInt? : Json → Option Int
  | .num (.integer value) => some value
  | _ => none

/-- The entries of an object. -/
def asObject? : Json → Option (Entries Json)
  | .obj entries => some entries
  | _ => none

/-- The field of an object. -/
def field? (value : Json) (name : String) : Option Json :=
  match value with
  | .obj entries => Entries.find? entries name
  | _ => none

/-- Whether the value is a number, and that number is a signed 64-bit integer. -/
def asInt64? (value : Json) : Option Int :=
  value.asInt?.filter fun n => -(Int.pow 2 63) ≤ n && n < Int.pow 2 63

/-! ## Repeated keys -/

mutual

/-- Collapses repeated keys at every depth: the first place is kept and the last value wins. -/
def collapse : Json → Json
  | .arr items => .arr (collapseItems items)
  | .obj entries => .obj (Entries.collapse (collapseEntries entries))
  | other => other

/-- Collapses repeated keys inside list elements. -/
def collapseItems : List Json → List Json
  | [] => []
  | item :: rest => collapse item :: collapseItems rest

/-- Collapses repeated keys inside entry values. -/
def collapseEntries : List (String × Json) → List (String × Json)
  | [] => []
  | (key, value) :: rest => (key, collapse value) :: collapseEntries rest

end

end Json

end ApiToolkit
