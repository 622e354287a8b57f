import ApiToolkit.Client.Call
import ApiToolkit.Path.Template
/-!
# Waiting for replies

## What is inside

- `World.carryOut`: one request on a transport.
- `World.settle`: waits for a reply.
- `World.callAndWait`: calls a value and waits.
-/

namespace ApiToolkit.Client.World

/-- The key of the options that holds path parameters. -/
def pathParametersKey : String := "path"

/-! ## Requests -/

/-- Carries out one request. -/
def carryOut [Url.DomainToAscii] (network : Http.Network) (world : World) (transport : Transport)
    (target : String) (options : RequestOptions) : Result × World :=
  match transport with
  | .network defaults =>
    let (result, sent) := Http.send network target (defaults.layer options)
    (result.map fun json => (json.map .data).getD .undefined,
      { world with sent := sent.toList ++ world.sent })
  | .recorder answer =>
    (.ok answer, { world with recorded := ⟨target, options⟩ :: world.recorded })
  | .failing reason =>
    (.error (.extension reason), { world with recorded := ⟨target, options⟩ :: world.recorded })

/-- Target and options of a request for a target. -/
def fetchRequest (defaults : RequestOptions) (args : List Value) :
    Except ApiError (String × RequestOptions) := do
  let target ← Arguments.string args 0 "request target"
  let options ← Arguments.options args 1
  return (target, defaults.layer options)

/-- Takes the path parameters out of the options.  The last option moves into their place. -/
def takePathParameters (options : RequestOptions) : Entries Json × RequestOptions :=
  match options.extra.swapErase? pathParametersKey with
  | none => ([], options)
  | some (parameters, extra) => (parameters.asObject?.getD [], { options with extra := extra })

/-- Target and options of a request for a path template. -/
def pathRequest (defaults : RequestOptions) (args : List Value) :
    Except ApiError (String × RequestOptions) := do
  let template ← Arguments.string args 0 "OpenAPI path"
  let options ← Arguments.options args 1
  -- The options of the call are looked at before the defaults are put under them.
  let (parameters, options) := takePathParameters options
  let path := Path.resolve template.toList parameters
  return (String.ofList path, defaults.layer options)

/-- Target and options of a request to a route. -/
def routeRequest (url : String) (defaults : RequestOptions) (method : Method)
    (args : List Value) : Except ApiError (String × RequestOptions) := do
  let options ← Arguments.routeOptions method args
  return (url, defaults.layer options)

/-- Carries out a request, unless it could not be made up. -/
def carryOutIfOk [Url.DomainToAscii] (network : Http.Network) (world : World)
    (transport : Transport) (request : Except ApiError (String × RequestOptions)) : Result × World :=
  match request with
  | .error e => (.error e, world)
  | .ok (target, options) => world.carryOut network transport target options

/-! ## Replies -/

/-- Waits for a reply.  A function that is called later may give another task, so `steps` bounds
how many there are; past the bound there is no result. -/
def settle [Url.DomainToAscii] (network : Http.Network) (steps : Nat) (world : World)
    (reply : Reply) : Option Result × World :=
  match reply with
  | .done result => (some result, world)
  | .pending (.fetch transport defaults args) =>
    let (result, world) := world.carryOutIfOk network transport (fetchRequest defaults args)
    (some result, world)
  | .pending (.fetchPath transport defaults args) =>
    let (result, world) := world.carryOutIfOk network transport (pathRequest defaults args)
    (some result, world)
  | .pending (.route url transport defaults method args) =>
    let (result, world) :=
      world.carryOutIfOk network transport (routeRequest url defaults method args)
    (some result, world)
  | .pending (.function f args) =>
    match steps with
    | 0 => (none, world)
    | n + 1 =>
      -- By now no client is being entered any more.
      let (reply, world) := world.callFunction world.everyClient f args
      settle network n world reply

/-- Calls a value and waits for its reply. -/
def callAndWait [Url.DomainToAscii] (network : Http.Network) (steps : Nat) (world : World)
    (value : Value) (args : List Value) : Option Result × World :=
  let (reply, world) := world.start value args
  world.settle network steps reply

end ApiToolkit.Client.World
