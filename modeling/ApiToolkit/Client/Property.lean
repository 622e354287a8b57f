import ApiToolkit.Client.World
/-!
# Properties

## What is inside

- `World.get`, `World.set`: properties of objects.
- `World.getView`, `World.setView`: properties of a client: its functions come first, then its own
  fields, and then the extension that made the view.
- `World.getValue`, `World.setValue`: properties of any value.
-/

namespace ApiToolkit.Client.World

/-- The field that holds the options of a client. -/
def defaultsField : String := "defaultOptions"

/-- The field that holds the function that applies a handler. -/
def withField : String := "with"

/-- A route with one more segment. -/
def extendRoute (url : String) (segments : List String) : String :=
  String.ofList (Path.join url.toList (segments.map String.toList))

/-! ## Reading -/

/-- Reads a property of an object.  Some functions are made anew each time they are read. -/
def get (world : World) (object : Dynamic) (name : String) : Option Value × World :=
  match object with
  | .function _ | .inert | .fetcher .. | .pathCaller .. => (none, world)
  | .bag id => (((world.bag id).find? name).map .function, world)
  | .table id _ _ => ((world.table id).find? name, world)
  | .route url transport defaults =>
    match Method.ofRouteName? name with
    | some method =>
      let (f, world) := world.newFunction (.request url transport defaults method)
      (some (.function f), world)
    | none => (some (.object (.route (extendRoute url [name]) transport defaults)), world)
  | .client id active =>
    -- A function of the client hides everything else of that name.
    match (world.methods id).find? name with
    | some f => (some (.function f), world)
    | none =>
      if name = defaultsField then (some (.data (world.defaults id).toJson), world)
      else if name = withField then
        let (f, world) := world.newFunction (.applyHandler id)
        (some (.function f), world)
      else
        match active with
        | none => (none, world)
        | some extension =>
          match world.get extension name with
          -- An undefined property is as good as none.
          | (some .undefined, world) => (none, world)
          | found => found
termination_by sizeOf object

/-- Reads a property of a client. -/
def getView (world : World) (view : View) (name : String) : Value × World :=
  let (found, world) := world.get view.toDynamic name
  (found.getD .undefined, world)

/-- Reads a property of any value. -/
def getValue (world : World) (value : Value) (name : String) : Value × World :=
  match value with
  | .object object =>
    let (found, world) := world.get object name
    (found.getD .undefined, world)
  | .data json => (Value.field json name, world)
  | .undefined | .function _ => (.undefined, world)

/-! ## Writing -/

/-- Writes a property of an object, and tells whether it was accepted.  A function of a client is
replaced only by another function, and the client's own fields are read-only. -/
def set (world : World) (object : Dynamic) (name : String) (value : Value) : Bool × World :=
  match object with
  | .function _ | .inert | .fetcher .. | .pathCaller .. | .route .. => (false, world)
  | .bag id =>
    match value with
    | .function f => (true, world.modifyBag id fun entries => entries.put name f)
    | _ => (false, world)
  | .table id _ isWritable =>
    if isWritable then (true, world.modifyTable id fun entries => entries.put name value)
    else (false, world)
  | .client id active =>
    -- The order is that of reading, so what is written is what is read afterwards.
    if (world.methods id).has name then
      match value with
      | .function f =>
        (true, world.modifyShared id fun shared =>
          { shared with methods := shared.methods.put name f })
      | _ => (false, world)
    else if name = defaultsField || name = withField then (false, world)
    else
      match active with
      | none => (false, world)
      | some extension => world.set extension name value
termination_by sizeOf object

/-- Writes a property of a client. -/
def setView (world : World) (view : View) (name : String) (value : Value) : Bool × World :=
  world.set view.toDynamic name value

/-- Writes a property of any value.  Only objects have properties that can be written. -/
def setValue (world : World) (target : Value) (name : String) (value : Value) : Bool × World :=
  match target with
  | .object object => world.set object name value
  | .undefined | .data _ | .function _ => (false, world)

end ApiToolkit.Client.World
