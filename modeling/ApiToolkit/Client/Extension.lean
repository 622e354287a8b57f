import ApiToolkit.Client.World
/-!
# Extensions

A handler extension decides what calling a client does; a methods extension adds functions.

## What is inside

- `Extension`: the two kinds.
- `World.apply`: applies an extension through a view.
- `Extension.fetch`, `Extension.route`, `Extension.openApi`: extensions that make requests.
-/

namespace ApiToolkit.Client

/-- What is added to a client. -/
inductive Extension where
  /-- An object that calls of the client go to. -/
  | handler (object : Dynamic)
  /-- Named functions. -/
  | methods (entries : Entries Function)

namespace World

/-- Makes an object the handler of a client. -/
def setHandler (world : World) (client : Nat) (object : Dynamic) : View × World :=
  (⟨client, some object⟩,
    world.modifyShared client fun shared => { shared with handler := some object })

/-- Adds named functions to a client.  They also stay together in a bag, which the new view
remembers. -/
def addMethods (world : World) (client : Nat) (entries : Entries Function) : View × World :=
  let (bag, world) := world.newBag entries
  (⟨client, some (.bag bag)⟩,
    world.modifyShared client fun shared =>
      { shared with methods := shared.methods.overlay entries.collapse })

/-- Applies an extension to the client of a view. -/
def apply (world : World) (view : View) (extension : Extension) : View × World :=
  match extension with
  | .handler object => world.setHandler view.client object
  | .methods entries => world.addMethods view.client entries

end World

/-! ## Extensions that make requests -/

/-- Calls request a target. -/
def Extension.fetch (transport : Transport) (defaults : RequestOptions) : Extension :=
  .handler (.fetcher transport defaults)

/-- Calls and properties build a URL, from the base address or the root. -/
def Extension.route (transport : Transport) (defaults : RequestOptions) : Extension :=
  .handler (.route (defaults.baseUrl.getD "/") transport defaults)

/-- Calls request a path template. -/
def Extension.openApi (transport : Transport) (defaults : RequestOptions) : Extension :=
  .handler (.pathCaller transport defaults)

end ApiToolkit.Client
