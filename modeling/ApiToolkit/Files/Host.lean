import ApiToolkit.Files.Fault
import ApiToolkit.Files.Path
import ApiToolkit.Text.Utf8
/-!
# Access to files

What the generator does with files is described over any way of reaching them.

## What is inside

- `Files.Host`: reading, looking, making directories, writing and moving.
- `Files.Host.readText`: the text of a file.
- `Files.Host.makeDirectories`: makes a directory and those above it.
-/

namespace ApiToolkit.Files

/-- A way of reaching files. -/
structure Host (m : Type → Type) where
  /-- The octets of a file. -/
  read : String → m (Except Fault (List UInt8))
  /-- Whether there is a directory under a path. -/
  isDirectory : String → m Bool
  /-- Makes a directory. -/
  makeDirectory : String → m (Except Fault Unit)
  /-- Writes a file, which need not be there. -/
  write : String → List UInt8 → m (Except Fault Unit)
  /-- Moves a file from the first path to the second one, over a file that may be there. -/
  move : String → String → m (Except Fault Unit)

namespace Host

variable {m : Type → Type} [Monad m]

/-- The text of a file. -/
def readText (host : Host m) (path : String) : m (Except Fault String) := do
  match ← host.read path with
  | .error fault => return .error fault
  | .ok octets =>
    match Utf8.decode? octets with
    | some text => return .ok text
    | none => return .error .invalidText

/-- Makes a directory, and takes it for made if it is there. -/
def settleDirectory (host : Host m) (path : String) : m (Except Fault Unit) := do
  match ← host.makeDirectory path with
  | .ok _ => return .ok ()
  | .error fault => if ← host.isDirectory path then return .ok () else return .error fault

/-- Makes a directory and those above it.  `steps` bounds their number. -/
def makeDirectoriesWithin (host : Host m) (steps : Nat) (path : String) :
    m (Except Fault Unit) := do
  if path.isEmpty then return .ok ()
  match ← host.makeDirectory path with
  | .ok _ => return .ok ()
  | .error .notFound =>
    match steps, FilePath.parent? path with
    | n + 1, some parent =>
      match ← makeDirectoriesWithin host n parent with
      | .error fault => return .error fault
      -- Now that the directory above is there, this one can be made.
      | .ok _ => settleDirectory host path
    | _, _ => return .error .wholeTree
  | .error fault => if ← host.isDirectory path then return .ok () else return .error fault

/-- Makes a directory and those above it. -/
def makeDirectories (host : Host m) (path : String) : m (Except Fault Unit) :=
  host.makeDirectoriesWithin path.length path

end Host

end ApiToolkit.Files
