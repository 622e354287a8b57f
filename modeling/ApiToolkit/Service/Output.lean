import ApiToolkit.Service.Declarations
/-!
# Writing the declarations

## What is inside

- `Output.definitionPath`: the file that a target stands for.
- `Output.writeAtomic`: writes a file beside its place and moves it there.
- `Output.generate`: makes the declarations of a registry and writes them.
-/

namespace ApiToolkit.Output

/-- The name of the file in a directory. -/
def standardName : String := "apiful.d.ts"

variable {m : Type → Type} [Monad m]

/-- The file that a target stands for.  In a directory, and after a slash, it has the standard
name. -/
def definitionPath (files : Files.Host m) (target : String) : m String := do
  if (← files.isDirectory target) || target.toList.getLast? = some '/' then
    return FilePath.join target standardName
  else return target

/-- Makes the directories above a file.  A path without a directory needs none. -/
def prepareParent (files : Files.Host m) (path : String) : m (Except GeneratorError Unit) := do
  match FilePath.parent? path with
  | none => return .ok ()
  | some parent =>
    if parent.isEmpty then return .ok ()
    else return (← files.makeDirectories parent).mapError (.write parent)

/-- Writes a file: first beside its place, and then it is moved there.  Missing directories are
made. -/
def writeAtomic (files : Files.Host m) (path content : String) :
    m (Except GeneratorError Unit) := do
  match ← prepareParent files path with
  | .error e => return .error e
  | .ok _ =>
    let draft := FilePath.withExtension path "tmp"
    match ← files.write draft (Utf8.encode content) with
    | .error fault => return .error (.write draft fault)
    | .ok _ => return (← files.move draft path).mapError (.write path)

/-- Makes the declarations of a registry and writes them.  The result is the path of the file; the
errors beside it are those of services with placeholders. -/
def generate (files : Files.Host m) (fetch : Url → m (Option String)) (compiler : Compiler m)
    (registry : Registry) (target : String) :
    m (Except GeneratorError String × List GeneratorError) := do
  if !registry.hasSchemas then return (.error .emptyRegistry, [])
  else
    let path ← definitionPath files target
    -- The target is looked at before the compiler runs.
    let outcomes ← Declarations.outcomes files fetch compiler registry
    let written ← writeAtomic files path (Declarations.text outcomes)
    return (written.map fun _ => path, Declarations.failures outcomes)

end ApiToolkit.Output
