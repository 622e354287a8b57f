import ApiToolkit.Proofs.Client.Log
import ApiToolkit.Proofs.Client.Properties
/-!
# Sessions with one client

A session makes a client and does things through its views, in any order.  All views share the state
of the client; a log of what was done says what that state is.

## What is inside

- `Operation`, `Session.step`, `Session.run`: sessions.
- `Session.Agrees`, `Session.agrees_step`: the shared state is what the log says.
- `Session.shared_state_of_run`: what is seen through the views after any run.
-/

namespace ApiToolkit.Client

/-! ## Sessions -/

/-- What is done next.  Views and functions are given by their place among those so far. -/
inductive Operation where
  /-- Applies an extension through a view. -/
  | extend (view : Nat) (extension : Extension)
  /-- Reads the function of a view that applies handlers. -/
  | readWith (view : Nat)
  /-- Calls such a function. -/
  | callWith (function : Nat) (args : List Value)
  /-- Writes a property through a view. -/
  | set (view : Nat) (name : String) (value : Value)

/-- A session with one client. -/
structure Session where
  /-- All state. -/
  world : World
  /-- The views so far. -/
  views : List View
  /-- The functions so far that apply handlers. -/
  functions : List Function
  /-- What was done so far. -/
  log : List Event

def Reply.view? : Reply → Option View
  | .done (.ok (.object (.client client active))) => some ⟨client, active⟩
  | _ => none

namespace Session

/-- A session with a new client. -/
def create (world : World) (options : RequestOptions) : Session :=
  let (view, world) := world.newClient options
  ⟨world, [view], [], []⟩

/-- Applies an extension. -/
def extend (session : Session) (view : View) (extension : Extension) : Session :=
  let (made, world) := session.world.apply view extension
  let event : Event := match extension with
    | .handler object => .handler object
    | .methods entries => .methods entries session.world.bags.length
  { session with world := world, views := session.views ++ [made], log := session.log ++ [event] }

/-- Reads the function that applies handlers, unless a registered function of that name hides it. -/
def readWith (session : Session) (view : View) : Session :=
  if (session.world.methods view.client).has World.withField then session
  else
    let (value, world) := session.world.getView view World.withField
    { session with
      world := world
      functions := session.functions ++ value.asFunction?.toList }

/-- Calls a function that applies handlers. -/
def callWith (session : Session) (f : Function) (args : List Value) : Session :=
  let (reply, world) := session.world.start (.function f) args
  { session with
    world := world
    views := session.views ++ reply.view?.toList
    log := session.log ++ ((handlerArgument? args).map Event.handler).toList }

/-- Writes a property. -/
def set (session : Session) (view : View) (name : String) (value : Value) : Session :=
  let (accepted, world) := session.world.setView view name value
  { session with
    world := world
    log := session.log ++ if accepted then [.accepted name value] else [] }

/-- One operation.  Nothing happens if there is no such view or function. -/
def step (session : Session) (operation : Operation) : Session :=
  match operation with
  | .extend view extension =>
    (session.views[view]?.map fun view => session.extend view extension).getD session
  | .readWith view => (session.views[view]?.map session.readWith).getD session
  | .callWith function args =>
    (session.functions[function]?.map fun f => session.callWith f args).getD session
  | .set view name value =>
    (session.views[view]?.map fun view => session.set view name value).getD session

/-- Operations one after the other. -/
def run (session : Session) (operations : List Operation) : Session := operations.foldl step session

end Session

/-! ## The state and the log -/

namespace Session

/-- The state of a session is what its log says. -/
structure Agrees (client : Nat) (options : RequestOptions) (session : Session) : Prop where
  /-- The client has the state that the log says. -/
  shared : ∃ shared, session.world.clients[client]? = some shared ∧
    shared.Records options session.log
  /-- After the first one, every view was made by an extension, and remembers it. -/
  views : session.views = ⟨client, none⟩ :: session.log.filterMap (Event.view? client)
  /-- The functions apply handlers to the client. -/
  functions : ∀ f ∈ session.functions, ∃ id, f = .mk id (.applyHandler client)
  /-- Every bag was made once. -/
  bags : (session.log.filterMap Event.bag?).Nodup
  /-- The bags exist. -/
  bags_lt : ∀ bag ∈ session.log.filterMap Event.bag?, bag < session.world.bags.length

variable {client : Nat} {options : RequestOptions} {session : Session}

/-- All views belong to the one client. -/
theorem Agrees.client_eq (h : session.Agrees client options) {view : View}
    (hview : view ∈ session.views) : view.client = client := by
  rw [h.views, List.mem_cons, List.mem_filterMap] at hview
  rcases hview with rfl | ⟨event, -, hevent⟩
  · rfl
  · cases event <;> cases hevent <;> rfl

theorem agrees_create (world : World) (options : RequestOptions) :
    (create world options).Agrees world.clients.length options := by
  refine ⟨⟨⟨options, [], none⟩, ?_, ?_⟩, rfl, ?_, List.nodup_nil, ?_⟩
  · exact List.getElem?_concat_length
  · exact ⟨rfl, fun name hname => absurd hname List.not_mem_nil, rfl, rfl⟩
  · exact List.forall_mem_nil _
  · exact List.forall_mem_nil _

theorem Agrees.extend_handler (h : session.Agrees client options) {view : View}
    (hview : view.client = client) (object : Dynamic) :
    (session.extend view (.handler object)).Agrees client options := by
  obtain ⟨⟨shared, hshared, hrecords⟩, hviews, hfunctions, hbags, hlt⟩ := h
  subst hview
  refine ⟨⟨_, ?_, hrecords.handled object⟩, ?_, hfunctions, ?_, ?_⟩
  · simp [extend, World.apply, World.setHandler, World.modifyShared, hshared]
  · simp [extend, World.apply, World.setHandler, hviews, Event.view?]
  · simpa [extend, List.filterMap_cons, Event.bag?] using hbags
  · simpa [extend, List.filterMap_cons, Event.bag?, World.apply, World.setHandler,
      World.modifyShared] using hlt

theorem Agrees.extend_methods (h : session.Agrees client options) {view : View}
    (hview : view.client = client) (entries : Entries Function) :
    (session.extend view (.methods entries)).Agrees client options := by
  obtain ⟨⟨shared, hshared, hrecords⟩, hviews, hfunctions, hbags, hlt⟩ := h
  subst hview
  refine ⟨⟨_, ?_, hrecords.added entries session.world.bags.length⟩, ?_, hfunctions, ?_, ?_⟩
  · simp [extend, World.apply, World.addMethods, World.newBag, World.modifyShared, hshared]
  · simp [extend, World.apply, World.addMethods, World.newBag, hviews, Event.view?]
  · simp only [extend, List.filterMap_append, List.filterMap_cons, Event.bag?, List.filterMap_nil]
    -- The new bag has the next number, and those before have smaller ones.
    rw [← List.concat_eq_append]
    exact hbags.concat fun hmem => Nat.lt_irrefl _ (hlt _ hmem)
  · intro bag hbag
    simp only [extend, List.filterMap_append, List.filterMap_cons, Event.bag?, List.filterMap_nil,
      List.mem_append, List.mem_singleton] at hbag
    simp only [extend, World.apply, World.addMethods, World.newBag, World.modifyShared,
      List.length_append, List.length_singleton]
    rcases hbag with hbag | rfl
    · exact Nat.lt_succ_of_lt (hlt bag hbag)
    · exact Nat.lt_succ_self _

/-- Calling a function that applies handlers is applying a handler, or nothing. -/
theorem callWith_eq (session : Session) (id client : Nat) (args : List Value) :
    session.callWith (.mk id (.applyHandler client)) args =
      match handlerArgument? args with
      | some object => session.extend ⟨client, none⟩ (.handler object)
      | none => session := by
  rw [callWith, World.start_applyHandler]
  cases handlerArgument? args with
  | some object => rfl
  | none => simp [Reply.view?]

theorem Agrees.callWith (h : session.Agrees client options) {f : Function}
    (hf : f ∈ session.functions) (args : List Value) :
    (session.callWith f args).Agrees client options := by
  obtain ⟨id, rfl⟩ := h.functions f hf
  rw [callWith_eq]
  cases handlerArgument? args with
  | some object => exact h.extend_handler rfl object
  | none => exact h

theorem Agrees.readWith (h : session.Agrees client options) {view : View}
    (hview : view.client = client) : (session.readWith view).Agrees client options := by
  rw [Session.readWith]
  split
  next => exact h
  next hhidden =>
    rw [World.getView_with (Bool.eq_false_iff.mpr hhidden)]
    -- Only the list of functions changes.
    refine ⟨h.shared, h.views, ?_, h.bags, h.bags_lt⟩
    intro f hf
    rcases List.mem_append.mp hf with hf | hf
    · exact h.functions f hf
    · rw [← hview]
      exact ⟨_, List.mem_singleton.mp hf⟩

/-- A function that is written under a known name goes into the table. -/
theorem set_known {view : View} {name : String}
    (hknown : (session.world.methods view.client).has name = true) (f : Function) :
    session.set view name (.function f) =
      { session with
        world := session.world.replaceMethod view.client name f
        log := session.log ++ [.accepted name (.function f)] } := by
  rw [Session.set, World.setView_known hknown]
  rfl

theorem Agrees.refused (h : session.Agrees client options) {after : World}
    (hclients : after.clients[client]? = session.world.clients[client]?)
    (hlength : after.bags.length = session.world.bags.length) :
    Agrees client options { session with world := after, log := session.log ++ [] } := by
  obtain ⟨⟨shared, hshared, hrecords⟩, hviews, hfunctions, hbags, hlt⟩ := h
  rw [List.append_nil]
  exact ⟨⟨shared, hclients.trans hshared, hrecords⟩, hviews, hfunctions, hbags, hlength ▸ hlt⟩

theorem Agrees.accepted (h : session.Agrees client options) {after : World} {shared : Shared}
    {name : String} {value : Value} (hshared : after.clients[client]? = some shared)
    (hrecords : shared.Records options (session.log ++ [.accepted name value]))
    (hlength : after.bags.length = session.world.bags.length) :
    Agrees client options
      { session with world := after, log := session.log ++ [.accepted name value] } := by
  refine ⟨⟨shared, hshared, hrecords⟩, ?_, h.functions, ?_, ?_⟩
  · simp [h.views, List.filterMap_cons, Event.view?]
  · simpa [List.filterMap_cons, Event.bag?] using h.bags
  · simpa [List.filterMap_cons, Event.bag?, hlength] using h.bags_lt

theorem Agrees.set (h : session.Agrees client options) {view : View}
    (hview : view.client = client) (name : String) (value : Value) :
    (session.set view name value).Agrees client options := by
  obtain ⟨shared, hshared, hrecords⟩ := h.shared
  subst hview
  have hknown_iff : (session.world.methods view.client).has name = true ↔
      name ∈ registeredNames session.log := by
    rw [World.methods_eq hshared, Entries.has_iff, hrecords.keys]
  by_cases hknown : (session.world.methods view.client).has name = true
  · -- The write goes to the table, if it is one of a function.
    cases value with
    | function f =>
      rw [set_known hknown]
      refine h.accepted ?_ (hrecords.replaced (hknown_iff.mp hknown) f) rfl
      simp [World.replaceMethod, World.modifyShared, hshared]
    | undefined | data | object =>
      rw [Session.set, World.setView_known hknown]
      exact h.refused rfl rfl
  · -- Wherever the write goes, it does not reach the state of this client.
    have hwritten := World.written_set session.world view.toDynamic name value
    have hclients := hwritten.getElem?_clients (Bool.eq_false_iff.mpr hknown)
    have hlength := hwritten.length_bags
    rw [Session.set, World.setView]
    generalize session.world.set view.toDynamic name value = result at hclients hlength
    obtain ⟨accepted, after⟩ := result
    cases accepted with
    | false => exact h.refused hclients hlength
    | true =>
      have hunknown : name ∉ registeredNames session.log := fun hmem =>
        hknown (hknown_iff.mpr hmem)
      exact h.accepted (hclients.trans hshared) (hrecords.elsewhere hunknown value) hlength

/-- Every operation keeps the state and the log together. -/
theorem agrees_step (h : session.Agrees client options) (operation : Operation) :
    (session.step operation).Agrees client options := by
  -- Without such a view or function, the session stays as it is.
  cases operation with
  | extend index extension =>
    rw [step]
    cases hview : session.views[index]? with
    | none => exact h
    | some view =>
      have hclient := h.client_eq (List.mem_of_getElem? hview)
      cases extension with
      | handler object => exact h.extend_handler hclient object
      | methods entries => exact h.extend_methods hclient entries
  | readWith index =>
    rw [step]
    cases hview : session.views[index]? with
    | none => exact h
    | some view => exact h.readWith (h.client_eq (List.mem_of_getElem? hview))
  | callWith index args =>
    rw [step]
    cases hfunction : session.functions[index]? with
    | none => exact h
    | some f => exact h.callWith (List.mem_of_getElem? hfunction) args
  | set index name value =>
    rw [step]
    cases hview : session.views[index]? with
    | none => exact h
    | some view => exact h.set (h.client_eq (List.mem_of_getElem? hview)) name value

theorem agrees_run (h : session.Agrees client options) (operations : List Operation) :
    (session.run operations).Agrees client options := by
  induction operations generalizing session with
  | nil => exact h
  | cons operation rest ih => exact ih (agrees_step h operation)

/-! ## What one operation adds -/

theorem log_prefix_step (session : Session) (operation : Operation) :
    session.log <+: (session.step operation).log := by
  cases operation with
  | extend index extension =>
    rw [step]
    cases session.views[index]? with
    | none => exact List.prefix_refl _
    | some view => exact List.prefix_append ..
  | readWith index =>
    rw [step]
    cases session.views[index]? with
    | none => exact List.prefix_refl _
    | some view =>
      simp only [Option.map_some, Option.getD_some, readWith]
      split <;> exact List.prefix_refl _
  | callWith index args =>
    rw [step]
    cases session.functions[index]? with
    | none => exact List.prefix_refl _
    | some f => exact List.prefix_append ..
  | set index name value =>
    rw [step]
    cases session.views[index]? with
    | none => exact List.prefix_refl _
    | some view => exact List.prefix_append ..

theorem registeredNames_prefix {log longer : List Event} (h : log <+: longer) :
    registeredNames log <+: registeredNames longer := by
  obtain ⟨rest, rfl⟩ := h
  rw [registeredNames, registeredNames, List.flatMap_append, List.eraseDups_append]
  exact List.prefix_append ..

theorem registeredNames_step_set (session : Session) (index : Nat) (name : String)
    (value : Value) :
    registeredNames (session.step (.set index name value)).log = registeredNames session.log := by
  rw [step]
  cases session.views[index]? with
  | none => rfl
  | some view =>
    simp only [Option.map_some, Option.getD_some, set]
    split
    · exact registeredNames_concat_of_nil _ rfl
    · rw [List.append_nil]

theorem bag_step_extend {index : Nat} {view : View} (hview : session.views[index]? = some view)
    (entries : Entries Function) :
    (session.step (.extend index (.methods entries))).world.bag session.world.bags.length =
      entries.collapse := by
  rw [step, hview]
  simp [extend, World.apply, World.addMethods, World.newBag, World.modifyShared, World.bag]

/-! ## What is seen through the views -/

theorem Agrees.keys_methods (h : session.Agrees client options) :
    (session.world.methods client).keys = registeredNames session.log := by
  obtain ⟨shared, hshared, hrecords⟩ := h.shared
  rw [World.methods_eq hshared, hrecords.keys]

theorem Agrees.getView_registered (h : session.Agrees client options) {view : View}
    (hview : view ∈ session.views) {name : String} (hname : name ∈ registeredNames session.log) :
    ∃ f, lastAssigned session.log name = some (.function f) ∧
      session.world.getView view name = (.function f, session.world) := by
  obtain ⟨shared, hshared, hrecords⟩ := h.shared
  -- A registered name is in the table, so a function is found.
  have hkey : name ∈ shared.methods.keys := by
    rw [hrecords.keys]
    exact hname
  obtain ⟨f, hf⟩ := Entries.exists_find?_of_mem_keys hkey
  refine ⟨f, ?_, World.getView_known ?_⟩
  · rw [← hrecords.assigned name hname, hf]
    rfl
  · rw [h.client_eq hview, World.methods_eq hshared, hf]

theorem Agrees.handler?_eq (h : session.Agrees client options) :
    session.world.handler? client = lastHandler session.log := by
  obtain ⟨shared, hshared, hrecords⟩ := h.shared
  rw [World.handler?, hshared, ← hrecords.handler]
  rfl

theorem Agrees.defaults_eq (h : session.Agrees client options) :
    session.world.defaults client = options := by
  obtain ⟨shared, hshared, hrecords⟩ := h.shared
  rw [World.defaults, hshared, ← hrecords.defaults]
  rfl

/-- What a view shows in a session. -/
structure Shows (options : RequestOptions) (session : Session) (view : View) : Prop where
  /-- The names of the table are those that were registered, in order. -/
  names : (session.world.methods view.client).keys = registeredNames session.log
  names_nodup : (session.world.methods view.client).keys.Nodup
  /-- A registered name is that of the function that was assigned to it last. -/
  get_registered : ∀ name ∈ registeredNames session.log, ∃ f,
    lastAssigned session.log name = some (.function f) ∧
      session.world.getView view name = (.function f, session.world)
  /-- No operation takes a name away, and writing adds none. -/
  names_step : ∀ operation, (session.world.methods view.client).keys <+:
    ((session.step operation).world.methods view.client).keys
  names_set : ∀ index name value,
    ((session.step (.set index name value)).world.methods view.client).keys =
      (session.world.methods view.client).keys
  /-- The handler is the one that was applied last, if there was one. -/
  handler : session.world.handler? view.client = lastHandler session.log
  has_handler : (session.world.handler? view.client).isSome = true ↔
    ∃ object, Event.handler object ∈ session.log
  /-- The options are those that the client was made with. -/
  defaults : session.world.defaults view.client = options

theorem Agrees.shows (h : session.Agrees client options) {view : View}
    (hview : view ∈ session.views) : session.Shows options view := by
  have hclient := h.client_eq hview
  subst hclient
  refine ⟨h.keys_methods, ?_, ?_, ?_, ?_, h.handler?_eq, ?_, h.defaults_eq⟩
  · rw [h.keys_methods]
    exact nodup_eraseDups _
  · intro name hname
    exact h.getView_registered hview hname
  · intro operation
    rw [h.keys_methods, (agrees_step h operation).keys_methods]
    exact registeredNames_prefix (log_prefix_step session operation)
  · intro index name value
    rw [h.keys_methods, (agrees_step h _).keys_methods]
    exact registeredNames_step_set session index name value
  · rw [h.handler?_eq]
    exact isSome_lastHandler_iff

/-- **Shared state of a client**: whatever is done through the views of a client, in any order,
every view shows the registered names, the functions assigned to them last, the last handler and the
options of the beginning; and after the first one, every view remembers the extension that made it,
whatever is done later. -/
theorem shared_state_of_run (world : World) (options : RequestOptions)
    (operations : List Operation) :
    let session := (create world options).run operations
    (∀ view ∈ session.views, session.Shows options view) ∧
    session.views =
      ⟨world.clients.length, none⟩ :: session.log.filterMap (Event.view? world.clients.length) ∧
    (session.log.filterMap Event.bag?).Nodup ∧
    (∀ operation, session.log <+: (session.step operation).log ∧
      session.views <+: (session.step operation).views) ∧
    (∀ index < session.views.length, ∀ entries,
      (session.step (.extend index (.methods entries))).world.bag session.world.bags.length =
        entries.collapse) := by
  intro session
  have h : session.Agrees world.clients.length options :=
    agrees_run (agrees_create world options) operations
  refine ⟨?_, h.views, h.bags, ?_, ?_⟩
  · intro view hview
    exact h.shows hview
  · intro operation
    have hlog := log_prefix_step session operation
    refine ⟨hlog, ?_⟩
    rw [h.views, (agrees_step h operation).views]
    exact List.cons_prefix_cons.mpr ⟨rfl, hlog.filterMap _⟩
  · intro index hindex entries
    exact bag_step_extend (List.getElem?_eq_getElem hindex) entries

/-- Two functions are registered; then, one of them is replaced through the first view, and the
other view applies a handler. -/
def sampleOperations : List Operation :=
  [.extend 0 (.methods [("a", .mk 0 (.argument 0)), ("b", .mk 1 (.argument 1))]),
    .set 0 "b" (.function (.mk 2 (.argument 2))),
    .extend 1 (.handler (.function (.mk 3 (.argument 3))))]

theorem log_sampleOperations : ((create .empty .empty).run sampleOperations).log =
    [.methods [("a", .mk 0 (.argument 0)), ("b", .mk 1 (.argument 1))] 0,
      .accepted "b" (.function (.mk 2 (.argument 2))),
      .handler (.function (.mk 3 (.argument 3)))] := by
  simp only [run, sampleOperations, List.foldl_cons, List.foldl_nil, step]
  -- Writing does not compute, so the state up to it is brought into a form that does.
  simp only [create, World.newClient, World.empty, extend, World.apply, World.addMethods,
    World.newBag, List.nil_append, List.getElem?_cons_zero, Option.map_some, Option.getD_some,
    List.cons_append]
  rw [set_known (by decide)]
  rfl

/-- What the first view shows after these operations. -/
theorem shared_state_of_sampleOperations :
    let session := (create .empty .empty).run sampleOperations
    (session.world.methods 0).keys = ["a", "b"] ∧
    session.world.getView ⟨0, none⟩ "b" = (.function (.mk 2 (.argument 2)), session.world) ∧
    session.world.handler? 0 = some (.function (.mk 3 (.argument 3))) ∧
    session.views[2]? = some ⟨0, some (.function (.mk 3 (.argument 3)))⟩ := by
  intro session
  obtain ⟨seen, views, -⟩ := shared_state_of_run .empty .empty sampleOperations
  have hview : (⟨0, none⟩ : View) ∈ session.views := by
    rw [views]
    exact List.mem_cons_self ..
  have names := (seen _ hview).names
  have assigned := (seen _ hview).get_registered
  have handler := (seen _ hview).handler
  rw [log_sampleOperations] at views names assigned handler
  refine ⟨names, ?_, handler, ?_⟩
  · obtain ⟨f, hlast, hget⟩ := assigned "b" (by decide)
    cases hlast
    exact hget
  · rw [views]
    rfl

end Session

end ApiToolkit.Client
