import ApiToolkit.Files.Host
/-!
# Trees of files

A file system as a value: directories, files and symbolic links, each under its place.  A file may
have several names.

## What is inside

- `Files.Entry`, `Files.Tree`: what there is under a place, and the places of a file system.
- `Files.Tree.locate`: the place that a path leads to.
- `Files.Tree.read`, `makeDirectory`, `write`, `move`: the operations.
- `Files.Tree.host`: the operations on a tree that is a state.
-/

namespace ApiToolkit.Files

/-- The names on the way from the root. -/
abbrev Place := List String

/-- What reading finds under a place. -/
inductive Node where
  | directory
  | file (content : List UInt8)
deriving DecidableEq

/-- What there is under a place.  Names of the same file, or of the same link, have one number. -/
inductive Entry where
  | directory
  | file (number : Nat) (content : List UInt8)
  /-- A symbolic link, with the path that it stands for. -/
  | link (number : Nat) (target : String)
deriving DecidableEq

namespace Entry

/-- What reading finds.  A link is nothing by itself. -/
def node? : Entry → Option Node
  | .directory => some .directory
  | .file _ content => some (.file content)
  | .link .. => none

/-- The path that a link stands for. -/
def target? : Entry → Option String
  | .link _ target => some target
  | _ => none

/-- The number of a file or a link. -/
def number? : Entry → Option Nat
  | .directory => none
  | .file number _ | .link number _ => some number

/-- What becomes of a name when the file with a number gets another content. -/
def refilled (number : Nat) (content : List UInt8) : Entry → Entry
  | .file own old => .file own (if own = number then content else old)
  | other => other

end Entry

/-- A file system of directories, files and symbolic links.  The root is a directory whether or not
it is listed. -/
structure Tree where
  /-- Where relative paths begin. -/
  cwd : Place
  /-- What there is. -/
  entries : List (Place × Entry)

namespace Tree

/-! ## Entries -/

/-- What there is under a place. -/
def find? (tree : Tree) (place : Place) : Option Entry :=
  if place = [] then some .directory else tree.entries.lookup place

/-- What reading finds under a place. -/
def node? (tree : Tree) (place : Place) : Option Node := (tree.find? place).bind Entry.node?

/-- The path that the link under a place stands for. -/
def link? (tree : Tree) (place : Place) : Option String := (tree.find? place).bind Entry.target?

/-- The content of the file under a place. -/
def content? (tree : Tree) (place : Place) : Option (List UInt8) :=
  match tree.node? place with
  | some (.file content) => some content
  | _ => none

/-- The directories and the files, under each of their names. -/
def nodes (tree : Tree) : List (Place × Node) :=
  tree.entries.filterMap fun (place, entry) => entry.node?.map fun node => (place, node)

/-- The tree without a place. -/
def erase (tree : Tree) (place : Place) : Tree :=
  { tree with entries := tree.entries.filter fun entry => entry.1 != place }

/-- Writes an entry. -/
def put (tree : Tree) (place : Place) (entry : Entry) : Tree :=
  { tree with entries := (place, entry) :: (tree.erase place).entries }

/-- Gives the file with a number another content, under all its names. -/
def refill (tree : Tree) (number : Nat) (content : List UInt8) : Tree :=
  { tree with entries := tree.entries.map fun (place, entry) =>
      (place, entry.refilled number content) }

/-- A number that no file has yet. -/
def freshNumber (tree : Tree) : Nat :=
  (tree.entries.filterMap fun entry => entry.2.number?).max?.getD 0 + 1

/-! ## Paths -/

/-- How many octets a name may have. -/
def nameLimit : Nat := 255

/-- How many octets a path has to stay below. -/
def pathLimit : Nat := 4096

/-- How many links are followed for one path. -/
def linkLimit : Nat := 40

/-- The fault of a path with too many links. -/
def tooManyLinks : Fault := .other "Too many levels of symbolic links (os error 40)"

/-- Goes on from a place to the next part of a path.  There has to be a directory. -/
def descend (tree : Tree) (place : Place) (part : List Char) : Except Fault Place :=
  match tree.find? place with
  | none => .error .notFound
  | some .directory =>
    if part = [] || part = ['.'] then .ok place
    else if part = ['.', '.'] then .ok place.dropLast
    else if (String.ofList part).utf8ByteSize > nameLimit then .error .nameTooLong
    else .ok (place ++ [String.ofList part])
  -- Even an empty part, as after a final slash, needs a directory.
  | some _ => .error .notDirectory

/-- Where a path begins. -/
def start (directory : Place) (path : String) : Place :=
  if FilePath.isAbsolute path then [] else directory

/-- Goes through the parts of a path.  `jump` goes on behind a link: from a place through parts.  A
link at the end is followed if `follow` is set. -/
def walkWith (tree : Tree) (follow : Bool)
    (jump : Place → List (List Char) → Except Fault Place) (place : Place)
    (parts : List (List Char)) : Except Fault Place :=
  match parts with
  | [] => .ok place
  | part :: rest =>
    match tree.descend place part with
    | .error fault => .error fault
    | .ok next =>
      match tree.link? next with
      | none => walkWith tree follow jump next rest
      | some target =>
        if rest.isEmpty && !follow then .ok next
        -- The path of a link is seen from the directory that the link is in.
        else jump (start place target) (FilePath.parts target.toList ++ rest)

/-- Goes through the parts of a path, and through those of at most as many links as `links` says. -/
def walk (tree : Tree) (follow : Bool) (links : Nat) :
    Place → List (List Char) → Except Fault Place :=
  match links with
  | 0 => tree.walkWith follow fun _ _ => .error tooManyLinks
  | n + 1 => tree.walkWith follow (walk tree follow n)

/-- The place that a path leads to.  There need not be anything under it.  A link at the end is
followed if `follow` is set. -/
def locate (tree : Tree) (follow : Bool) (path : String) : Except Fault Place :=
  if path.toList.contains (Char.ofNat 0) then .error .nulInName
  else if path.isEmpty then .error .notFound
  else if path.utf8ByteSize ≥ pathLimit then .error .nameTooLong
  else tree.walk follow linkLimit (start tree.cwd path) (FilePath.parts path.toList)

/-! ## Operations -/

/-- The octets of a file. -/
def read (tree : Tree) (path : String) : Except Fault (List UInt8) := do
  match tree.node? (← tree.locate true path) with
  | none => .error .notFound
  | some .directory => .error .isDirectory
  | some (.file content) => .ok content

/-- Whether there is a directory under a path. -/
def isDirectory (tree : Tree) (path : String) : Bool :=
  match tree.locate true path with
  | .ok place => tree.node? place = some .directory
  | .error _ => false

/-- Makes a directory.  A link in its place is not followed. -/
def makeDirectory (tree : Tree) (path : String) : Except Fault Tree := do
  let place ← tree.locate false path
  match tree.find? place with
  | some _ => .error .alreadyExists
  | none => .ok (tree.put place .directory)

/-- Writes a file.  A file that is there keeps its other names, and a link is followed, even to
where there is nothing. -/
def write (tree : Tree) (path : String) (content : List UInt8) : Except Fault Tree := do
  let place ← tree.locate true path
  match tree.find? place with
  | none => .ok (tree.put place (.file tree.freshNumber content))
  | some .directory => .error .isDirectory
  | some (.file number _) => .ok (tree.refill number content)
  -- All links have been followed.
  | some (.link ..) => .error tooManyLinks

/-- Moves a file or a link.  Neither name is followed if it is a link, and nothing happens if they
are names of the same file. -/
def move (tree : Tree) (source target : String) : Except Fault Tree := do
  let start ← tree.locate false source
  match tree.find? start with
  | none => .error .notFound
  | some .directory => .error .isDirectory
  | some entry =>
    let place ← tree.locate false target
    match tree.find? place with
    | some .directory => .error .isDirectory
    | other => .ok (if other = some entry then tree else (tree.erase start).put place entry)

/-- Carries an operation out; the tree is kept if it fails. -/
def change (operation : Tree → Except Fault Tree) : StateM Tree (Except Fault Unit) :=
  fun tree =>
    match operation tree with
    | .ok changed => (.ok (), changed)
    | .error fault => (.error fault, tree)

/-- The operations on a tree that is a state. -/
def host : Host (StateM Tree) where
  read path := fun tree => (tree.read path, tree)
  isDirectory path := fun tree => (tree.isDirectory path, tree)
  makeDirectory path := change (·.makeDirectory path)
  write path content := change (·.write path content)
  move source target := change (·.move source target)

end Tree

end ApiToolkit.Files
