import ApiToolkit.Text.Letter
/-!
# Request methods

## What is inside

- `Method`, `Method.name`: the methods of HTTP.
- `Method.ofName?`: reads a name in letters of any case.
- `Method.ofOption?`: reads a name in capital or in small letters.
- `Method.hasBody`, `Method.isRouteMethod`: how routes use a method.
-/

namespace ApiToolkit

/-- A method of HTTP. -/
inductive Method where
  | get
  | post
  | put
  | patch
  | delete
  | head
  | options
  | trace
deriving DecidableEq, Repr

namespace Method

/-- All methods. -/
def all : List Method := [.get, .post, .put, .patch, .delete, .head, .options, .trace]

/-- The name of a method in capital letters. -/
def name : Method → String
  | .get => "GET"
  | .post => "POST"
  | .put => "PUT"
  | .patch => "PATCH"
  | .delete => "DELETE"
  | .head => "HEAD"
  | .options => "OPTIONS"
  | .trace => "TRACE"

/-- Whether data for a route is sent as the body rather than as the query. -/
def hasBody : Method → Bool
  | .post | .put | .patch | .delete => true
  | _ => false

/-- Whether routes have a function for the method. -/
def isRouteMethod : Method → Bool
  | .get | .post | .put | .delete | .patch => true
  | _ => false

/-- The method with this name, in letters of any case. -/
def ofName? (text : String) : Option Method :=
  all.find? fun m => m.name.toList == text.toList.map Letter.asciiUpper

/-- The method with this name, in capital letters or in small letters. -/
def ofOption? (text : String) : Option Method :=
  all.find? fun m =>
    m.name.toList == text.toList || m.name.toList.map Letter.asciiLower == text.toList

/-- The function of a route with this name. -/
def ofRouteName? (text : String) : Option Method := (ofName? text).filter isRouteMethod

end Method

end ApiToolkit
