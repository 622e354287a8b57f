import ApiToolkit.Http.Error
import ApiToolkit.Http.Options
import ApiToolkit.Json.Reader
import ApiToolkit.Path.Component
import ApiToolkit.Path.Join
import ApiToolkit.Url.Query
/-!
# Requests and replies

A target and options become one request on the wire, and a reply becomes data.

## What is inside

- `Http.buildUrl`: the URL of a request.
- `Http.buildHeaders`: the headers of a request; names are compared in small letters.
- `Http.Request`, `Http.Response`, `Http.Network`: what goes over the wire.
- `Http.send`: sends a request, and tells what was begun.
-/

namespace ApiToolkit.Http

/-! ## URLs -/

/-- The text that the URL of a request is read from.  A target that is no URL is joined to the
base address, unless it begins with it. -/
def joinedTarget [Url.DomainToAscii] (target : String) (baseUrl : Option String) : String :=
  match Url.parse target.toList, baseUrl with
  | .ok url, _ => url.text
  | .error _, some base =>
    -- The base is compared as text, so a target may be the base with a tail.
    if Text.startsWith base.toList target.toList then target
    else String.ofList (Path.join base.toList [target.toList])
  | .error _, none => target

/-- The pairs of one query parameter: none for null, and one for each element of an array. -/
def parameterPairs (name : String) (value : Json) : List (List Char × List Char) :=
  match value with
  | .null => []
  | .arr items => items.map fun item => (name.toList, Path.parameterText item)
  | other => [(name.toList, Path.parameterText other)]

/-- The URL of a request. -/
def buildUrl [Url.DomainToAscii] (target : String) (o : RequestOptions) : Except ApiError Url :=
  let joined := joinedTarget target o.baseUrl
  match Url.parse joined.toList with
  | .error fault => .error (.invalidUrl joined fault)
  | .ok url =>
    -- A parameter without pairs still opens the query.
    .ok (if o.query.isEmpty then url
      else url.withPairs (o.query.flatMap fun p => parameterPairs p.1 p.2))

/-! ## Headers -/

/-- Characters of header names. -/
def isNameChar (c : Char) : Bool :=
  Letter.isAsciiAlphanumeric c ||
    ['!', '#', '$', '%', '&', '\'', '*', '+', '-', '.', '^', '_', '\x60', '|', '~'].contains c

/-- Whether a text is the name of a header. -/
def isHeaderName (name : String) : Bool :=
  !name.isEmpty && name.length < 65536 && name.toList.all isNameChar

/-- Characters of header values. -/
def isValueChar (c : Char) : Bool := (c.toNat ≥ 0x20 && c.toNat ≠ 0x7F) || c == '\t'

/-- A header name in small letters. -/
def lowerName (name : String) : String := String.ofList (name.toList.map Letter.asciiLower)

/-- Writes one header over others. -/
def putHeader (headers : Entries String) (header : String × String) :
    Except ApiError (Entries String) :=
  if !isHeaderName header.1 then .error (.headerName header.1)
  else if !header.2.toList.all isValueChar then .error (.headerValue (lowerName header.1))
  else .ok (headers.put (lowerName header.1) header.2)

/-- The headers of a request, in small letters. -/
def buildHeaders (headers : Entries String) : Except ApiError (Entries String) :=
  headers.foldlM putHeader []

/-! ## The wire -/

/-- What is sent. -/
structure Request where
  /-- The method. -/
  method : Method
  /-- The URL. -/
  url : Url
  /-- The headers. -/
  headers : Entries String
  /-- The body; it may be empty. -/
  body : String

/-- What comes back. -/
structure Response where
  /-- The status. -/
  status : Nat
  /-- The content type, if one is given. -/
  contentType : Option String
  /-- The octets of the body. -/
  body : List UInt8

/-- What answers requests, whatever the scheme of their URLs.  A request without an answer fails. -/
abbrev Network := Request → Option Response

/-- The network that nothing can be reached through. -/
def Network.unreachable : Network := fun _ => none

/-- A request that was begun: its URL, and what was sent if it was answered. -/
structure Sent where
  /-- The URL. -/
  url : Url
  /-- What was sent. -/
  request : Option Request

/-- A header that is sent unless it is given. -/
def withDefault (headers : Entries String) (name value : String) : Entries String :=
  if headers.has name then headers else headers.put name value

/-- The headers and the body for the body of the options.  A string is sent as it is, and any
other value as JSON. -/
def buildBody (headers : Entries String) (body : Option Json) : Entries String × String :=
  let headers := withDefault headers "accept" "*/*"
  match body with
  | none | some .null => (headers, "")
  | some (.str text) => (headers, text)
  | some value => (withDefault headers "content-type" "application/json", value.compact)

/-- The data of a reply.  An empty body has none. -/
def decodeResponse (response : Response) : Except ApiError (Option Json) :=
  if response.status < 200 || 300 ≤ response.status then
    .error (.httpStatus response.status (Utf8.decodeLossy response.body))
  else if response.body.isEmpty then .ok none
  else if (response.contentType.getD "").toList |> Text.occursIn "json".toList then
    match (Utf8.decode? response.body).bind Json.parse? with
    | some value => .ok (some value)
    | none => .error .jsonParse
  else .ok (some (.str (Utf8.decodeLossy response.body)))

/-- Sends a request.  Besides the result there is a record of the request, unless its URL could not
be built. -/
def send [Url.DomainToAscii] (network : Network) (target : String) (o : RequestOptions) :
    Except ApiError (Option Json) × Option Sent :=
  match buildUrl target o with
  | .error e => (.error e, none)
  | .ok url =>
    match buildHeaders o.headers with
    | .error e => (.error e, some ⟨url, none⟩)
    | .ok headers =>
      let (headers, body) := buildBody headers o.body
      let request : Request := ⟨o.method.getD .get, url, headers, body⟩
      match network request with
      -- The URL is on record even if nothing answers.
      | none => (.error .request, some ⟨url, none⟩)
      | some response => (decodeResponse response, some ⟨url, some request⟩)

end ApiToolkit.Http
