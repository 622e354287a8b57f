import ApiToolkit.Url.Basic
/-!
# Queries

The pairs of a query are written as forms are: a blank becomes a plus sign.

## What is inside

- `Url.formEncode`, `Url.formDecode`: one name or value.
- `Url.withPairs`: appends pairs to the query of a URL.
- `Url.pairs`: the pairs of a query.
-/

namespace ApiToolkit.Url

/-! ## Names and values -/

/-- Characters that stand for themselves in forms. -/
def keptInForm (c : Char) : Bool :=
  Letter.isAsciiAlphanumeric c || ['*', '-', '.', '_'].contains c

/-- A name or a value, escaped. -/
def formEncode (text : List Char) : List Char :=
  text.flatMap fun c => if c = ' ' then ['+'] else Percent.encodeChar keptInForm c

/-- The text that an escaped name or value stands for. -/
def formDecode (text : List Char) : List Char :=
  (Utf8.decodeLossy (Percent.decode (text.map fun c => if c = '+' then ' ' else c))).toList

/-! ## Pairs -/

/-- Appends a pair, after a separator unless it is the first one. -/
def appendPair (query : List Char) (pair : List Char × List Char) : List Char :=
  (if query.isEmpty then [] else query ++ ['&']) ++ formEncode pair.1 ++ '=' :: formEncode pair.2

/-- Appends pairs to the query of a URL.  There is a query afterwards, even an empty one. -/
def withPairs (url : Url) (pairs : List (List Char × List Char)) : Url :=
  { url with query := some (pairs.foldl appendPair (url.query.getD [])) }

/-- The pairs of a query.  Empty parts are left out. -/
def pairs (query : List Char) : List (List Char × List Char) :=
  ((Text.splitBy (· == '&') query).filter (!·.isEmpty)).map fun part =>
    (formDecode (part.takeWhile (· != '=')), formDecode ((part.dropWhile (· != '=')).drop 1))

end ApiToolkit.Url
