import ApiToolkit.Client.Value
import ApiToolkit.Http.Request
/-!
# The shared state of clients

Views of one client share its state, and objects share the tables behind them.

## What is inside

- `Shared`: the state of one client.
- `World`: all clients, bags and tables, and the record of requests.
- `World.modifyShared`, `World.modifyBag`, `World.modifyTable`: changes to one of them.
-/

namespace ApiToolkit.Client

/-- The state that all views of one client share. -/
structure Shared where
  /-- The options that the client was created with. -/
  defaults : RequestOptions
  /-- The functions of all methods extensions. -/
  methods : Entries Function
  /-- The handler of the last handler extension. -/
  handler : Option Dynamic

/-- A view of a client: the client, and the extension that made the view. -/
structure View where
  /-- The client. -/
  client : Nat
  /-- The extension. -/
  active : Option Dynamic

/-- A view as an object. -/
def View.toDynamic (view : View) : Dynamic := .client view.client view.active

/-- A request that a recorder received. -/
structure Recorded where
  /-- The target. -/
  target : String
  /-- The options. -/
  options : RequestOptions

/-- All state. -/
structure World where
  /-- The clients, by number. -/
  clients : List Shared
  /-- The bags, by number. -/
  bags : List (Entries Function)
  /-- The tables, by number. -/
  tables : List (Entries Value)
  /-- How many functions there are. -/
  functions : Nat
  /-- The requests that recorders received, the last one first. -/
  recorded : List Recorded
  /-- The requests that were begun on the network, the last one first. -/
  sent : List Http.Sent

namespace World

/-- Nothing at all. -/
def empty : World := ⟨[], [], [], 0, [], []⟩

/-! ## Reading -/

/-- The functions in a bag. -/
def bag (world : World) (id : Nat) : Entries Function := world.bags[id]?.getD []

/-- The values in a table. -/
def table (world : World) (id : Nat) : Entries Value := world.tables[id]?.getD []

/-- The functions of a client. -/
def methods (world : World) (id : Nat) : Entries Function :=
  (world.clients[id]?.map Shared.methods).getD []

/-- The handler of a client. -/
def handler? (world : World) (id : Nat) : Option Dynamic := world.clients[id]?.bind Shared.handler

/-- The options of a client. -/
def defaults (world : World) (id : Nat) : RequestOptions :=
  (world.clients[id]?.map Shared.defaults).getD .empty

/-! ## Changing -/

/-- Changes the state of one client. -/
def modifyShared (world : World) (id : Nat) (change : Shared → Shared) : World :=
  { world with clients := world.clients.modify id change }

/-- Changes one bag. -/
def modifyBag (world : World) (id : Nat) (change : Entries Function → Entries Function) : World :=
  { world with bags := world.bags.modify id change }

/-- Changes one table. -/
def modifyTable (world : World) (id : Nat) (change : Entries Value → Entries Value) : World :=
  { world with tables := world.tables.modify id change }

/-! ## Making -/

/-- Makes a function. -/
def newFunction (world : World) (body : Body) : Function × World :=
  (.mk world.functions body, { world with functions := world.functions + 1 })

/-- Makes a bag.  Of a repeated name the first place is kept and the last function wins. -/
def newBag (world : World) (entries : Entries Function) : Nat × World :=
  (world.bags.length, { world with bags := world.bags ++ [entries.collapse] })

/-- Makes a table. -/
def newTable (world : World) (entries : Entries Value) : Nat × World :=
  (world.tables.length, { world with tables := world.tables ++ [entries.collapse] })

/-- Makes a client without extensions. -/
def newClient (world : World) (defaults : RequestOptions) : View × World :=
  (⟨world.clients.length, none⟩, { world with clients := world.clients ++ [⟨defaults, [], none⟩] })

end World

end ApiToolkit.Client
