import ApiToolkit.Text.Search
/-!
# Paths of files

A path is a text whose parts are separated by slashes.  Empty parts and parts that are a single
dot do not count, except for a dot at the beginning.

## What is inside

- `FilePath.name?`, `FilePath.parent?`: the last part, and the path before it.
- `FilePath.extension?`, `FilePath.withExtension`: what follows the last dot of the name.
- `FilePath.join`: a path that is seen from a directory.
-/

namespace ApiToolkit.FilePath

/-! ## Parts -/

/-- The texts between the slashes. -/
def parts (path : List Char) : List (List Char) := Text.splitBy (· == '/') path

/-- Drops parts that do not count from the end of a path; the last part comes first.  The very
first part of the path stays. -/
def settle (parts : List (List Char)) : List (List Char) :=
  match parts with
  | [] => []
  | [first] => [first]
  | part :: next :: rest =>
    if part = [] || part = ['.'] then settle (next :: rest) else part :: next :: rest

/-- The last part that counts, and the parts before it, the last one first. -/
def last? (path : List Char) : Option (List Char × List (List Char)) :=
  match settle (parts path).reverse with
  | [] | [[]] => none
  | last :: before => some (last, before)

/-- The path of some parts, the last one first.  A single empty part is the root. -/
def ofParts (parts : List (List Char)) : List Char :=
  match settle parts with
  | [[]] => ['/']
  | settled => Text.joinWith ['/'] settled.reverse

/-- The path before the last part.  It is empty if there is no other part. -/
def parent? (path : String) : Option String :=
  (last? path.toList).map fun (_, before) =>
    if before.isEmpty then "" else String.ofList (ofParts before)

/-- Whether a path begins at the root. -/
def isAbsolute (path : String) : Bool := path.toList.head? == some '/'

/-- A path that is seen from a directory. -/
def join (directory path : String) : String :=
  if isAbsolute path || directory.isEmpty then path
  else if directory.toList.getLast? = some '/' then directory ++ path
  else directory ++ "/" ++ path

/-! ## Names -/

/-- The last part, if it is a name and the parts before it. -/
def named? (path : List Char) : Option (List Char × List (List Char)) :=
  (last? path).filter fun (last, _) => last != ['.'] && last != ['.', '.']

/-- The last part, if it is a name. -/
def name? (path : String) : Option String :=
  (named? path.toList).map fun (name, _) => String.ofList name

/-- A name is cut at its last dot, unless that is its first character. -/
def splitName (name : List Char) : List Char × Option (List Char) :=
  match Text.cutAtLast? '.' name with
  -- A name that only begins with a dot has no extension.
  | none | some ([], _) => (name, none)
  | some (stem, extension) => (stem, some extension)

/-- What follows the last dot of the name. -/
def extension? (path : String) : Option String :=
  ((named? path.toList).bind fun (name, _) => (splitName name).2).map String.ofList

/-- The path whose name ends in another extension.  As many characters as the old extension has
are taken from the end of the path first.  A path without a name is kept. -/
def withExtension (path extension : String) : String :=
  let old := ((extension? path).map String.length).getD 0
  let chars := path.toList.take (path.length - old)
  match named? chars with
  | none => String.ofList chars
  | some (name, before) =>
    let directory := if before.isEmpty then [] else Text.joinWith ['/'] before.reverse ++ ['/']
    String.ofList (directory ++ (splitName name).1 ++ '.' :: extension.toList)

end ApiToolkit.FilePath
