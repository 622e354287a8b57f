import ApiToolkit.Url.Basic
/-!
# Errors of calls

## What is inside

- `ApiError`: why a call fails, with `ApiError.message`.
- `ApiError.status?`, `ApiError.isRetryable`, `ApiError.isArgumentError`: what callers ask.
-/

namespace ApiToolkit

/-- Why a call fails. -/
inductive ApiError where
  /-- The request got no reply. -/
  | request
  /-- The server refused the request. -/
  | httpStatus (status : Nat) (body : String)
  /-- The target is no URL. -/
  | invalidUrl (text : String) (fault : Url.Fault)
  /-- A header has a bad name. -/
  | headerName (name : String)
  /-- A header has a bad value. -/
  | headerValue (name : String)
  /-- Data has another form than expected. -/
  | jsonParse
  /-- An argument is missing. -/
  | missingArgument (index : Nat) (expected : String)
  /-- An argument is of the wrong kind. -/
  | invalidArgument (index : Nat) (expected : String)
  /-- The value is neither a function nor an object. -/
  | notCallable
  /-- An extension failed. -/
  | extension (reason : String)
deriving DecidableEq, Repr

namespace ApiError

/-- The text of an error. -/
def message : ApiError → String
  | .request => "HTTP request failed"
  | .httpStatus status body => "HTTP " ++ toString status ++ ": " ++ body
  | .invalidUrl text fault => "Invalid URL '" ++ text ++ "': " ++ fault.message
  | .headerName name => "Invalid header: " ++ name ++ ": invalid HTTP header name"
  | .headerValue name => "Invalid header: " ++ name ++ ": failed to parse header value"
  | .jsonParse => "JSON parse error"
  | .missingArgument index expected =>
    "Missing argument " ++ toString index ++ ": expected " ++ expected
  | .invalidArgument index expected =>
    "Invalid argument " ++ toString index ++ ": expected " ++ expected
  | .notCallable => "Value is not callable"
  | .extension reason => "Extension error: " ++ reason

/-- The status with which the server refused the request. -/
def status? : ApiError → Option Nat
  | .httpStatus status _ => some status
  | _ => none

/-- Whether the same request may succeed later. -/
def isRetryable : ApiError → Bool
  | .httpStatus status _ => status ≥ 500 || status == 429
  | _ => false

/-- Whether an argument is at fault. -/
def isArgumentError : ApiError → Bool
  | .missingArgument .. | .invalidArgument .. => true
  | _ => false

end ApiError

end ApiToolkit
