import ApiToolkit.Service.Error
import ApiToolkit.Text.Utf8
/-!
# Compilers of documents

A compiler turns a document into declarations.  The usual one is a program that gets the document
in a file and its options as flags, and prints the declarations.

## What is inside

- `Compiler`: any compiler.
- `Command.parse`: a program with its first arguments, from a command line.
- `Command.flags`: options as flags.
- `Command.Invocation`, `Command.Outcome`: what is run, and how that ended.
- `Command.compiler`: a program as a compiler.
-/

namespace ApiToolkit

/-- Turns a document into declarations, with options or without. -/
abbrev Compiler (m : Type → Type) := Json → Option (Entries Json) → m (Except CompilerError String)

/-- A program with its first arguments. -/
structure Command where
  /-- The program. -/
  program : String
  /-- Its first arguments. -/
  arguments : List String
deriving DecidableEq, Repr

namespace Command

/-- The command line that is used if none is given. -/
def standardLine : String := "npx openapi-typescript"

/-- The words of a text. -/
def words (text : String) : List String :=
  ((Text.splitBy Letter.isBlank text.toList).filter (!·.isEmpty)).map String.ofList

/-- Reads a command line: words between blanks.  There has to be one. -/
def parse (line : String) : Except GeneratorError Command :=
  match words line with
  | [] => .error (.config "--compiler" .emptyCommand)
  | program :: arguments => .ok ⟨program, arguments⟩

/-! ## Flags -/

/-- The text of a value after a flag: strings stand for themselves, all else is JSON. -/
def flagValue (value : Json) : String :=
  match value with
  | .str text => text
  | other => other.compact

/-- The flags of one option.  A true value is a bare flag, false and null are dropped, and an
array repeats the flag for each element. -/
def optionFlags (name : String) (value : Json) : List String :=
  let flag := "--" ++ String.ofList (Naming.kebab name.toList)
  match value with
  | .bool true => [flag]
  | .bool false | .null => []
  | .arr items => items.flatMap fun item => [flag, flagValue item]
  | other => [flag, flagValue other]

/-- The flags of all options, in order. -/
def flags (options : Option (Entries Json)) : List String :=
  (options.getD []).flatMap fun option => optionFlags option.1 option.2

/-! ## Running -/

/-- What is run: a program with arguments, then the name of a file that holds the document, then
flags. -/
structure Invocation where
  /-- The program. -/
  program : String
  /-- The arguments before the name of the file. -/
  arguments : List String
  /-- The content of the file. -/
  document : String
  /-- The arguments after the name of the file. -/
  flags : List String

/-- How running a program ended. -/
inductive Outcome where
  /-- The program could not be started. -/
  | notStarted (fault : Files.Fault)
  /-- There was no file for the document. -/
  | notPrepared (fault : Files.Fault)
  /-- The program ended.  There is no status if a signal ended it. -/
  | ended (status : Option Nat) (output complaint : List UInt8)

/-- What is run for a document. -/
def invocation (command : Command) (document : Json) (options : Option (Entries Json)) :
    Invocation where
  program := command.program
  arguments := command.arguments
  document := document.compact
  flags := flags options

/-- What an outcome means: the output of a program that ended with status zero, or an error. -/
def Outcome.result (program : String) : Outcome → Except CompilerError String
  | .notStarted fault => .error (.spawn program fault)
  | .notPrepared fault => .error (.handover fault)
  | .ended (some 0) output _ => .ok (Utf8.decodeLossy output)
  | .ended status _ complaint =>
    let text := Text.trimBy Letter.isBlank (Utf8.decodeLossy complaint).toList
    .error (.failed ((status.map fun n => (n : Int)).getD (-1)) (String.ofList text))

/-- A program as a compiler.  `run` runs programs. -/
def compiler {m : Type → Type} [Monad m] (run : Invocation → m Outcome) (command : Command) :
    Compiler m :=
  fun document options => do
    return (← run (command.invocation document options)).result command.program

end Command

end ApiToolkit
