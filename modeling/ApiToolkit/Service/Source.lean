import ApiToolkit.Files.Host
import ApiToolkit.Schema.Document
import ApiToolkit.Service.Document
import ApiToolkit.Service.Error
import ApiToolkit.Url.Basic
/-!
# Where the documents of services come from

## What is inside

- `SchemaSource`: documents given directly, by URL, by path, or by a function.
- `SchemaSource.ofLocation`, `SchemaSource.relativeTo`: reading a location.
- `Url.filePath?`: the path that the URL of a file names.
- `SchemaSource.resolve`: the document itself.
-/

namespace ApiToolkit

/-- Where a document comes from. -/
inductive SchemaSource where
  /-- The document itself. -/
  | inline (document : Json)
  /-- Something to be fetched, or a file. -/
  | url (url : Url)
  /-- A file. -/
  | file (path : String)
  /-- A function that makes the document, as what it gives. -/
  | resolver (result : Except String Json)

/-- The path that the URL of a file names.  The file must not be on another host.  A path that
ends in a drive letter gets a slash. -/
def Url.filePath? (url : Url) : Option String :=
  let isLocal := (url.authority.map fun a => decide (a.host = .empty)).getD true
  if !isLocal || url.path.head? != some '/' then none
  else
    let octets := Percent.decode url.path
    let path := Utf8.decodeLossy octets
    let endsInDrive :=
      match path.toList.reverse with
      | mark :: letter :: _ :: _ => (mark == ':' || mark == '|') && Letter.isAsciiLetter letter
      | _ => false
    some (if endsInDrive then path ++ "/" else path)

namespace SchemaSource

/-- Reads a location: an absolute URL, or else the path of a file. -/
def ofLocation [Url.DomainToAscii] (location : String) : SchemaSource :=
  match Url.parse location.toList with
  | .ok address => .url address
  | .error _ => .file location

/-- Anchors a relative path in a directory. -/
def relativeTo (source : SchemaSource) (directory : String) : SchemaSource :=
  match source with
  | .file path => .file (FilePath.join directory path)
  | other => other

variable {m : Type → Type} [Monad m]

/-- Reads the document in a file. -/
def readFile (files : Files.Host m) (path : String) : m (Except SourceFault Json) := do
  match ← files.readText path with
  | .error fault => return .error (.unreadable path fault)
  | .ok text =>
    match Service.readDocument? text path with
    | some document => return .ok document
    | none => return .error .malformed

/-- Fetches a document.  `fetch` gives the text under a URL. -/
def readUrl (fetch : Url → m (Option String)) (address : Url) :
    m (Except SourceFault Json) := do
  match ← fetch address with
  | none => return .error .notFetched
  | some text =>
    match Service.readDocument? text (String.ofList address.path) with
    | some document => return .ok document
    | none => return .error .malformed

/-- The document as it is found. -/
def obtain (files : Files.Host m) (fetch : Url → m (Option String)) (source : SchemaSource) :
    m (Except SourceFault Json) :=
  match source with
  | .inline document => return .ok document
  | .url address =>
    if address.scheme = "file".toList then
      match address.filePath? with
      | some path => readFile files path
      | none => return .error (.noPath address.text)
    else readUrl fetch address
  | .file path => readFile files path
  | .resolver result => return result.mapError .resolver

/-- The document of a service, without a wrapper around it. -/
def resolve (files : Files.Host m) (fetch : Url → m (Option String)) (source : SchemaSource)
    (service : String) : m (Except GeneratorError Json) := do
  match ← source.obtain files fetch with
  | .ok document => return .ok (WrappedDocument.unwrap document)
  | .error fault => return .error (.resolution service fault)

end SchemaSource

end ApiToolkit
