import ApiToolkit.CommandLine.Run
/-!
# The program

The command line over the files of the machine.  It reaches no network and starts no other
programs, so services that need either get placeholders.

## What is inside

- `Machine.files`: the files of the machine.
- `main`: reads the arguments, prints the report and ends with its status.
-/

namespace ApiToolkit.Machine

open Files (Fault)

/-- The fault with a number of the operating system, which may come with a minus sign. -/
def faultOfCode (code : UInt32) (message : String) : Fault :=
  match min code.toNat (0 - code).toNat with
  | 2 => .notFound
  | 13 => .permissionDenied
  | 17 => .alreadyExists
  | 20 => .notDirectory
  | 21 => .isDirectory
  | 36 => .nameTooLong
  | _ => .other message

/-- The fault that an error of the machine stands for. -/
def faultOf (e : IO.Error) : Fault :=
  match e with
  | .noFileOrDirectory _ code _ | .permissionDenied _ code _ | .alreadyExists _ code _
  | .inappropriateType _ code _ | .invalidArgument _ code _ | .resourceExhausted _ code _ =>
    faultOfCode code e.toString
  | _ => .other e.toString

/-- Carries an operation out.  Paths with the character with the number zero are refused. -/
def attempt {α : Type} (path : String) (operation : IO α) : IO (Except Fault α) := do
  if path.toList.contains (Char.ofNat 0) then return .error .nulInName
  match ← operation.toBaseIO with
  | .ok result => return .ok result
  | .error e => return .error (faultOf e)

/-- Whether there is a directory under a path: opening it for writing tells. -/
def isDirectory (path : String) : IO Bool := do
  match ← attempt path (IO.FS.Handle.mk path .readWrite) with
  | .error .isDirectory => return true
  | _ => return false

/-- The files of the machine. -/
def files : Files.Host IO where
  read path := do
    return (← attempt path (IO.FS.readBinFile path)).map fun octets => octets.toList
  isDirectory := isDirectory
  makeDirectory path := attempt path (IO.FS.createDir path)
  write path content := attempt path (IO.FS.writeBinFile path (ByteArray.mk content.toArray))
  move source target := attempt source (IO.FS.rename source target)

/-- What a run can reach. -/
def surroundings : CommandLine.Surroundings IO where
  files := files
  fetch _ := return none
  runProgram _ := return .notStarted .permissionDenied

end ApiToolkit.Machine

open ApiToolkit in
/-- Runs the program. -/
def main (arguments : List String) : IO UInt32 := do
  let report ← CommandLine.run Machine.surroundings arguments
  for warning in report.warnings do
    IO.eprintln warning.message
  IO.print report.output
  match report.ending with
  | .done => pure ()
  | .failed error => IO.eprintln ("Error: " ++ error.message)
  | .misused fault => IO.eprintln ("error: " ++ fault.message)
  return report.ending.status.toUInt32
