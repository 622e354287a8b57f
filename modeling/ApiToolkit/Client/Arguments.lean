import ApiToolkit.Client.Value
import ApiToolkit.Json.Writer
/-!
# Arguments of calls

## What is inside

- `Arguments.string`, `Arguments.options`, `Arguments.segments`: what calls expect.
-/

namespace ApiToolkit.Client.Arguments

/-- A string that must be given. -/
def string (args : List Value) (index : Nat) (expected : String) : Except ApiError String :=
  match args[index]? with
  | none | some .undefined => .error (.missingArgument index expected)
  | some value =>
    match value.asString? with
    | some text => .ok text
    | none => .error (.invalidArgument index expected)

/-- Request options that may be left out. -/
def options (args : List Value) (index : Nat) : Except ApiError RequestOptions :=
  match args[index]? with
  | none | some .undefined | some (.data .null) => .ok .empty
  | some (.data json) =>
    match RequestOptions.ofJson? json with
    | some options => .ok options
    | none => .error .jsonParse
  | some _ => .error (.invalidArgument index "request options object")

/-- The text of a path segment: a string or a number. -/
def segment? (value : Value) : Option String :=
  match value with
  | .data (.str text) => some text
  | .data (.num number) => some (Json.compact (.num number))
  | _ => none

/-- Path segments, the first of which has the given position. -/
def segments (index : Nat) (args : List Value) : Except ApiError (List String) :=
  match args with
  | [] => .ok []
  | value :: rest =>
    match segment? value with
    | none => .error (.invalidArgument index "path segment")
    | some text => do
      let texts ← segments (index + 1) rest
      return text :: texts

/-- What the data of a request to a route must be. -/
def expectedData (method : Method) : String :=
  if method.hasBody then "request body" else "query object"

/-- Adds the data of a request to a route: as the body, or key by key to the query. -/
def addData (method : Method) (options : RequestOptions) (data : Option Value) :
    Except ApiError RequestOptions :=
  match data with
  | none | some .undefined | some (.data .null) => .ok options
  | some (.data json) =>
    if method.hasBody then .ok { options with body := some json }
    else
      match json with
      | .obj query => .ok { options with query := options.query.overlay query }
      | _ => .error (.invalidArgument 0 (expectedData method))
  | some _ => .error (.invalidArgument 0 (expectedData method))

/-- The options of a request to a route.  The first argument is the data, and the second one holds
further options. -/
def routeOptions (method : Method) (args : List Value) : Except ApiError RequestOptions := do
  let options ← options args 1
  let options ← addData method { options with baseUrl := none } args[0]?
  return { options with method := some method }

end ApiToolkit.Client.Arguments
