import ApiToolkit.Http.Error
import ApiToolkit.Http.Options
/-!
# Dynamic values

Extensions do not know each other, so what passes between them is dynamic: plain data, functions,
and objects with properties.

## What is inside

- `Value`, `Function`, `Body`, `Call`, `Dynamic`, `Transport`: the values, defined together because
  each of them may hold any other.
- `Value.summary`: the kind of a value, with its data.
- `Value.field`, `Value.toData`: what can be read off a value by itself.
-/

namespace ApiToolkit.Client

mutual

/-- A value. -/
inductive Value where
  /-- No value. -/
  | undefined
  /-- Plain data. -/
  | data (json : Json)
  /-- A function. -/
  | function (f : Function)
  /-- An object with properties of its own. -/
  | object (object : Dynamic)

/-- A function: functions are the same if their numbers are. -/
inductive Function where
  | mk (id : Nat) (body : Body)

/-- What a function does. -/
inductive Body where
  /-- Gives a fixed value. -/
  | constant (value : Value)
  /-- Gives one of its arguments. -/
  | argument (index : Nat)
  /-- Gives an object that describes the arguments, with a mark. -/
  | describe (mark : Json)
  /-- Fails. -/
  | failure (reason : String)
  /-- Calls another function, but only when the reply is waited for. -/
  | later (inner : Function)
  /-- Makes calls, one after the other, and gives the last reply. -/
  | forward (first : Call) (more : List Call)
  /-- Applies its first argument to a client as a handler. -/
  | applyHandler (client : Nat)
  /-- Sends a request to a route. -/
  | request (url : String) (transport : Transport) (defaults : RequestOptions) (method : Method)

/-- A call that a function makes: the value that is called, and the arguments.  Without arguments
of its own, it passes on those of the function. -/
inductive Call where
  | mk (target : Value) (args : Option (List Value))

/-- An object. -/
inductive Dynamic where
  /-- A function as an object. -/
  | function (f : Function)
  /-- A view of a client, with the extension that made it. -/
  | client (id : Nat) (active : Option Dynamic)
  /-- A bag of named functions. -/
  | bag (id : Nat)
  /-- A table of values; writing to it and calling it may be impossible. -/
  | table (id : Nat) (call : Option Function) (isWritable : Bool)
  /-- An object that can do nothing. -/
  | inert
  /-- A URL under construction. -/
  | route (url : String) (transport : Transport) (defaults : RequestOptions)
  /-- Requests a target. -/
  | fetcher (transport : Transport) (defaults : RequestOptions)
  /-- Requests a path template. -/
  | pathCaller (transport : Transport) (defaults : RequestOptions)

/-- What carries out requests. -/
inductive Transport where
  /-- The network, with defaults under all options. -/
  | network (defaults : RequestOptions)
  /-- A recorder that always gives the same value. -/
  | recorder (answer : Value)
  /-- A recorder that always fails. -/
  | failing (reason : String)

end

/-- The number of a function. -/
def Function.id : Function → Nat
  | .mk id _ => id

/-- What a function does. -/
def Function.body : Function → Body
  | .mk _ body => body

/-- The value that is called. -/
def Call.target : Call → Value
  | .mk target _ => target

/-- The arguments of a call that is made by a function with arguments `args`. -/
def Call.argsFrom (args : List Value) : Call → List Value
  | .mk _ own => own.getD args

/-- A value stands for the call that passes all arguments on to it. -/
instance : Coe Value Call := ⟨fun target => .mk target none⟩

/-- What a call gives. -/
abbrev Result := Except ApiError Value

namespace Value

/-! ## Views -/

/-- Whether the value is no value. -/
def isUndefined : Value → Bool
  | .undefined => true
  | _ => false

/-- Whether the value may be called. -/
def isCallable : Value → Bool
  | .function _ | .object _ => true
  | _ => false

/-- The data of a data value. -/
def asData? : Value → Option Json
  | .data json => some json
  | _ => none

/-- The function of a function value. -/
def asFunction? : Value → Option Function
  | .function f => some f
  | _ => none

/-- The text of a data string. -/
def asString? (value : Value) : Option String := value.asData?.bind Json.asString?

/-- The integer of a data number. -/
def asInt64? (value : Value) : Option Int := value.asData?.bind Json.asInt64?

/-- The name of the kind of a value. -/
def kindName : Value → String
  | .undefined => "undefined"
  | .data _ => "data"
  | .function _ => "function"
  | .object _ => "object"

/-- The kind of a value, with its data. -/
def summary (value : Value) : Json :=
  .obj (("kind", .str value.kindName) ::
    (value.asData?.map fun json => ("value", json)).toList)

/-- The property of plain data. -/
def field (value : Json) (name : String) : Value := ((value.field? name).map .data).getD .undefined

/-- The data of a value.  No value counts as null. -/
def toData : Value → Except ApiError Json
  | .undefined => .ok .null
  | .data json => .ok json
  | .function _ | .object _ => .error (.invalidArgument 0 "data value")

/-- Reads the data of a value. -/
def decode {α : Type} (read : Json → Option α) (value : Value) : Except ApiError α := do
  let json ← value.toData
  match read json with
  | some result => .ok result
  | none => .error .jsonParse

end Value

end ApiToolkit.Client
