import ApiToolkit.Files.Fault
import ApiToolkit.Json.Writer
import ApiToolkit.Naming
/-!
# Errors of the generator

## What is inside

- `CompilerError`: why a document could not be compiled.
- `SourceFault`: why a document could not be had.
- `GeneratorError`: why generating fails, with `GeneratorError.message`.
- `GeneratorError.isPerService`: whether other services are not affected.
-/

namespace ApiToolkit

/-- Why a document could not be compiled. -/
inductive CompilerError where
  /-- The program could not be started. -/
  | spawn (program : String) (fault : Files.Fault)
  /-- The program ended with a status other than zero. -/
  | failed (status : Int) (complaint : String)
  /-- The document could not be handed over. -/
  | handover (fault : Files.Fault)
  /-- The document was refused. -/
  | rejected (reason : String)
deriving DecidableEq, Repr

/-- The text of an error. -/
def CompilerError.message : CompilerError → String
  | .spawn program fault => "Failed to run '" ++ program ++ "': " ++ fault.message
  | .failed status complaint =>
    "Compiler exited with status " ++ toString status ++ ": " ++ complaint
  | .handover fault => "Failed to prepare schema document: " ++ fault.message
  | .rejected reason => reason

/-- Why a document could not be had. -/
inductive SourceFault where
  /-- A file could not be read. -/
  | unreadable (path : String) (fault : Files.Fault)
  /-- The URL of a file names no path. -/
  | noPath (url : String)
  /-- The text is no document. -/
  | malformed
  /-- Nothing could be fetched. -/
  | notFetched
  /-- The function that makes the document failed. -/
  | resolver (reason : String)
deriving DecidableEq, Repr

/-- The text of a fault. -/
def SourceFault.message : SourceFault → String
  | .unreadable path fault => "failed to read '" ++ path ++ "': " ++ fault.message
  | .noPath url => "'" ++ url ++ "' is not a valid file URL"
  | .malformed => "the text is not a document"
  | .notFetched => "the document could not be fetched"
  | .resolver reason => reason

/-- What is wrong with a configuration. -/
inductive ConfigFault where
  /-- The text cannot be read as a configuration. -/
  | malformed
  /-- A schema is neither a string nor an object. -/
  | schemaShape (value : Json)
  /-- The command line of the compiler has no words. -/
  | emptyCommand

/-- The text of a fault. -/
def ConfigFault.message : ConfigFault → String
  | .malformed => "the text is not a configuration"
  | .schemaShape value =>
    "expected a URL, a file path or a document, got " ++ value.compact
  | .emptyCommand => "compiler command cannot be empty"

/-- Why generating fails. -/
inductive GeneratorError where
  /-- The configuration file could not be read. -/
  | configRead (path : String) (fault : Files.Fault)
  /-- A part of the configuration is wrong. -/
  | config (part : String) (fault : ConfigFault)
  /-- No service has a schema. -/
  | emptyRegistry
  /-- A service id has no type names. -/
  | invalidServiceId (id : String) (fault : Naming.IdFault)
  /-- Two services would have the same type names. -/
  | namingCollision (id existing identifier : String)
  /-- The document of a service could not be had. -/
  | resolution (service : String) (fault : SourceFault)
  /-- The document of a service could not be compiled. -/
  | compile (service : String) (cause : CompilerError)
  /-- The declarations could not be written. -/
  | write (path : String) (fault : Files.Fault)

namespace GeneratorError

/-- The text of an error. -/
def message : GeneratorError → String
  | .configRead path fault => "Failed to read config file '" ++ path ++ "': " ++ fault.message
  | .config part fault => "Invalid configuration in '" ++ part ++ "': " ++ fault.message
  | .emptyRegistry => "No services with a schema are configured"
  | .invalidServiceId id fault => "Invalid service id '" ++ id ++ "': " ++ fault.reason
  | .namingCollision id existing identifier =>
    "Naming collision for service '" ++ id ++ "': generated name '" ++ identifier ++
      "' is already used by service '" ++ existing ++ "'"
  | .resolution service fault =>
    "Failed to resolve schema for service '" ++ service ++ "': " ++ fault.message
  | .compile service cause =>
    "Failed to compile schema for service '" ++ service ++ "': " ++ cause.message
  | .write path fault => "Failed to write output file '" ++ path ++ "': " ++ fault.message

/-- Whether an error concerns one service and leaves the others alone. -/
def isPerService : GeneratorError → Bool
  | .resolution .. | .compile .. => true
  | _ => false

end GeneratorError

end ApiToolkit
