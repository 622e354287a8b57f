import ApiToolkit.Client.Arguments
import ApiToolkit.Client.Extension
import ApiToolkit.Client.Property
/-!
# Calls

A call gives a reply at once.  The reply may still have to be waited for: requests, and functions
that are called later, are tasks.

## What is inside

- `Task`, `Reply`: what is left to be done, and what a call gives.
- `World.call`, `World.callValue`, `World.callFunction`: calls.

A client whose handler is being called is not entered again: such a call gives no value.  The list
`free` holds the clients that may still be entered; it gets shorter with every handler, so calls
come to an end even if handlers form a cycle.
-/

namespace ApiToolkit.Client

/-- What is left to be done. -/
inductive Task where
  /-- Calling a function. -/
  | function (f : Function) (args : List Value)
  /-- Requesting a target. -/
  | fetch (transport : Transport) (defaults : RequestOptions) (args : List Value)
  /-- Requesting a path template. -/
  | fetchPath (transport : Transport) (defaults : RequestOptions) (args : List Value)
  /-- Requesting a route. -/
  | route (url : String) (transport : Transport) (defaults : RequestOptions) (method : Method)
    (args : List Value)

/-- What a call gives. -/
inductive Reply where
  /-- A result. -/
  | done (result : Result)
  /-- A task that the result comes from. -/
  | pending (task : Task)

namespace World

/-- The description of arguments, with a mark. -/
def describe (mark : Json) (args : List Value) : Value :=
  .data (.obj [("tag", mark), ("args", .arr (args.map Value.summary))])

/-- Applies the first argument to a client as a handler. -/
def applyArgument (world : World) (client : Nat) (args : List Value) : Result × World :=
  let apply (object : Dynamic) : Result × World :=
    let (view, world) := world.setHandler client object
    (.ok (.object view.toDynamic), world)
  match args with
  | .function f :: _ => apply (.function f)
  | .object object :: _ => apply object
  | _ => (.error (.invalidArgument 0 "extension"), world)

mutual

/-- Calls an object. -/
def call (world : World) (free : List Nat) (object : Dynamic) (args : List Value) :
    Reply × World :=
  match object with
  | .function f => world.callFunction free f args
  | .client id _ =>
    -- The handler is that of the client, not of the view that is called.
    match world.handler? id with
    | none => (.done (.ok .undefined), world)
    | some handler =>
      -- Entering the client takes it off the list for everything that the handler calls.
      if h : id ∈ free then
        have : (free.erase id).length < free.length := by
          rw [List.length_erase_of_mem h]
          exact Nat.pred_lt (by cases free <;> simp_all)
        world.call (free.erase id) handler args
      else (.done (.ok .undefined), world)
  | .table _ (some f) _ => world.callFunction free f args
  | .table _ none _ | .bag _ | .inert => (.done (.error .notCallable), world)
  | .route url transport defaults =>
    (.done ((Arguments.segments 0 args).map fun segments =>
      .object (.route (extendRoute url segments) transport defaults)), world)
  | .fetcher transport defaults => (.pending (.fetch transport defaults args), world)
  | .pathCaller transport defaults => (.pending (.fetchPath transport defaults args), world)
termination_by (free.length, sizeOf object)

/-- Calls a value. -/
def callValue (world : World) (free : List Nat) (value : Value) (args : List Value) :
    Reply × World :=
  match value with
  | .function f => world.callFunction free f args
  | .object object => world.call free object args
  | .undefined | .data _ => (.done (.error .notCallable), world)
termination_by (free.length, sizeOf value)

/-- Makes the calls of a function one after the other, and gives the last reply. -/
def callAll (world : World) (free : List Nat) (first : Call) (more : List Call)
    (args : List Value) : Reply × World :=
  have : sizeOf first.target < sizeOf first := by
    cases first
    simp only [Call.target, Call.mk.sizeOf_spec]
    omega
  match more with
  | [] => world.callValue free first.target (first.argsFrom args)
  | next :: rest =>
    -- Only the effects of an earlier call count; its reply is dropped.
    let (_, world) := world.callValue free first.target (first.argsFrom args)
    world.callAll free next rest args
termination_by (free.length, 1 + sizeOf first + sizeOf more)

/-- Calls a function. -/
def callFunction (world : World) (free : List Nat) (f : Function) (args : List Value) :
    Reply × World :=
  match f with
  | .mk _ (.constant value) => (.done (.ok value), world)
  | .mk _ (.argument index) => (.done (.ok (args[index]?.getD .undefined)), world)
  | .mk _ (.describe mark) => (.done (.ok (describe mark args)), world)
  | .mk _ (.failure reason) => (.done (.error (.extension reason)), world)
  -- Nothing happens before the reply is waited for.
  | .mk _ (.later inner) => (.pending (.function inner args), world)
  | .mk _ (.forward first more) => world.callAll free first more args
  | .mk _ (.applyHandler client) =>
    let (result, world) := world.applyArgument client args
    (.done result, world)
  | .mk _ (.request url transport defaults method) =>
    (.pending (.route url transport defaults method args), world)
termination_by (free.length, sizeOf f)

end

/-- All clients. -/
def everyClient (world : World) : List Nat := List.range world.clients.length

/-- Calls a value while no client is being entered. -/
def start (world : World) (value : Value) (args : List Value) : Reply × World :=
  world.callValue world.everyClient value args

end World

end ApiToolkit.Client
