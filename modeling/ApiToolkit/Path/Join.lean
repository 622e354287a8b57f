import ApiToolkit.Text.Search
/-!
# Joining addresses

## What is inside

- `Path.joinSegment`: appends one segment with a slash before it.
- `Path.join`: appends segments from left to right.
-/

namespace ApiToolkit.Path

/-- A segment without a leading `./` or slash. -/
def stripLead (segment : List Char) : List Char :=
  ((Text.stripStart? ['.', '/'] segment).or (Text.stripStart? ['/'] segment)).getD segment

/-- Appends one segment.  An empty segment and a lone slash change nothing, and an empty address
becomes the segment. -/
def joinSegment (address segment : List Char) : List Char :=
  if segment = [] || segment = ['/'] then address
  else if address = [] then segment
  else if address.getLast? = some '/' then address ++ stripLead segment
  else address ++ '/' :: stripLead segment

/-- Appends segments from left to right. -/
def join (address : List Char) (segments : List (List Char)) : List Char :=
  segments.foldl joinSegment address

end ApiToolkit.Path
