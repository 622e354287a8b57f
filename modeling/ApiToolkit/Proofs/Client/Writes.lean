import ApiToolkit.Proofs.Client.Programs
import ApiToolkit.Proofs.Entries
/-!
# Writing properties

Through a view, a name is looked for in the table of the client, then among the client's own fields,
and then in the extension that the view remembers, which may be a view again.  Reading and writing go
the same way, so they come to the same slot.  A function that is written there is read afterwards, and
no other slot changes; whatever else is written changes nothing.

## What is inside

- `Slot`, `World.read?`, `World.fill`, `World.read?_fill`: the places that functions are written to.
- `World.slot?`: the slot that a property of an object is kept in.
- `Dynamic.IsStandard`: the objects that come with clients, and views of clients.
- `World.set_function`, `World.get_of_slot?`: writing and reading through the slot.
- `World.OnlyFills`, `Program.writes_of_run`: writes in any state that a program gets to.
-/

namespace ApiToolkit.Client

/-! ## Slots -/

/-- A place for a function. -/
inductive Slot where
  /-- A name in the table of a client. -/
  | method (client : Nat) (name : String)
  /-- A name in a bag. -/
  | bag (id : Nat) (name : String)
deriving DecidableEq

/-- The name in a slot. -/
def Slot.name : Slot → String
  | .method _ name | .bag _ name => name

namespace World

/-- The function in a slot. -/
def read? (world : World) : Slot → Option Function
  | .method client name => (world.methods client).find? name
  | .bag id name => (world.bag id).find? name

/-- Puts a function into a slot. -/
def fill (world : World) (slot : Slot) (f : Function) : World :=
  match slot with
  | .method client name => world.replaceMethod client name f
  | .bag id name => world.modifyBag id fun entries => entries.put name f

/-- Whether functions are written to a slot: a table takes them under its names only, and a bag under
any name. -/
def Accepts (world : World) : Slot → Prop
  | .method client name => (world.methods client).has name = true
  | .bag id _ => id < world.bags.length

section Fill

variable {world : World}

theorem lt_length_of_has {client : Nat} {name : String}
    (h : (world.methods client).has name = true) : client < world.clients.length := by
  apply Nat.lt_of_not_le
  intro hlength
  rw [methods, List.getElem?_eq_none hlength] at h
  cases h

theorem methods_replaceMethod {client : Nat} (hclient : client < world.clients.length) (name : String)
    (f : Function) (other : Nat) :
    (world.replaceMethod client name f).methods other =
      if other = client then (world.methods client).put name f else world.methods other := by
  by_cases heq : other = client
  · subst heq
    simp [methods, replaceMethod, modifyShared, List.getElem?_eq_getElem hclient]
  · simp [methods, replaceMethod, modifyShared, heq, Ne.symm heq]

theorem bag_modifyBag {id : Nat} (hid : id < world.bags.length)
    (change : Entries Function → Entries Function) (other : Nat) :
    (world.modifyBag id change).bag other =
      if other = id then change (world.bag id) else world.bag other := by
  by_cases heq : other = id
  · subst heq
    simp [bag, modifyBag, List.getElem?_eq_getElem hid]
  · simp [bag, modifyBag, heq, Ne.symm heq]

/-- Filling a slot is seen in that slot and in no other one. -/
theorem read?_fill {slot : Slot} (h : world.Accepts slot) (f : Function) (other : Slot) :
    (world.fill slot f).read? other = if other = slot then some f else world.read? other := by
  cases slot with
  | method client name =>
    cases other with
    | bag id found => rfl
    | method otherClient found =>
      have hmethods := methods_replaceMethod (lt_length_of_has h) name f otherClient
      simp only [read?, fill, hmethods]
      by_cases hclient : otherClient = client
      · simp [hclient, Entries.find?_put]
      · simp [hclient]
  | bag id name =>
    cases other with
    | method client found => rfl
    | bag otherId found =>
      have hbag := bag_modifyBag h (fun entries => entries.put name f) otherId
      simp only [read?, fill, hbag]
      by_cases hid : otherId = id
      · simp [hid, Entries.find?_put]
      · simp [hid]

/-- Filling a slot leaves the names of all clients, in their order. -/
theorem keys_methods_fill {slot : Slot} (h : world.Accepts slot) (f : Function) (client : Nat) :
    ((world.fill slot f).methods client).keys = (world.methods client).keys := by
  cases slot with
  | bag id name => rfl
  | method other name =>
    rw [fill, methods_replaceMethod (lt_length_of_has h)]
    split
    next heq => rw [heq, Entries.keys_put, if_pos (Entries.has_iff.mp h)]
    next => rfl

/-- Filling a slot registers no name with any client. -/
theorem has_fill {slot : Slot} (h : world.Accepts slot) (f : Function) (client : Nat)
    (name : String) :
    ((world.fill slot f).methods client).has name = (world.methods client).has name := by
  rw [Bool.eq_iff_iff, Entries.has_iff, Entries.has_iff, keys_methods_fill h]

theorem handler?_fill (slot : Slot) (f : Function) (client : Nat) :
    (world.fill slot f).handler? client = world.handler? client := by
  cases slot with
  | bag id name => rfl
  | method other name =>
    simp only [fill, replaceMethod, modifyShared, handler?, List.getElem?_modify]
    cases world.clients[client]? with
    | none => rfl
    | some shared =>
      show (if other = client then _ else shared).handler = shared.handler
      split <;> rfl

theorem defaults_fill (slot : Slot) (f : Function) (client : Nat) :
    (world.fill slot f).defaults client = world.defaults client := by
  cases slot with
  | bag id name => rfl
  | method other name =>
    simp only [fill, replaceMethod, modifyShared, defaults, List.getElem?_modify]
    cases world.clients[client]? with
    | none => rfl
    | some shared =>
      show (if other = client then _ else shared).defaults = shared.defaults
      split <;> rfl

end Fill

end World

/-! ## The slot of a property -/

/-- The objects that come with clients, and views that remember such an object or nothing.  Tables of
values, which take whatever is written, are not among them. -/
inductive Dynamic.IsStandard : Dynamic → Prop where
  | function (f : Function) : IsStandard (.function f)
  | bag (id : Nat) : IsStandard (.bag id)
  | inert : IsStandard .inert
  | route (url : String) (transport : Transport) (defaults : RequestOptions) :
    IsStandard (.route url transport defaults)
  | fetcher (transport : Transport) (defaults : RequestOptions) :
    IsStandard (.fetcher transport defaults)
  | pathCaller (transport : Transport) (defaults : RequestOptions) :
    IsStandard (.pathCaller transport defaults)
  | client (id : Nat) {active : Option Dynamic} (h : ∀ extension ∈ active, IsStandard extension) :
    IsStandard (.client id active)

namespace World

/-- The slot that a property of an object is kept in, if there is one. -/
def slot? (world : World) (object : Dynamic) (name : String) : Option Slot :=
  match object with
  | .bag id => some (.bag id name)
  | .client id active =>
    if (world.methods id).has name then some (.method id name)
    else if name = defaultsField || name = withField then none
    else
      match active with
      | none => none
      | some extension => world.slot? extension name
  | .function _ | .inert | .table .. | .route .. | .fetcher .. | .pathCaller .. => none
termination_by sizeOf object

section Slot

variable {world after : World} {object : Dynamic} {name : String} {slot : Slot}

theorem slot?_client (world : World) (id : Nat) (active : Option Dynamic) (name : String) :
    world.slot? (.client id active) name =
      if (world.methods id).has name then some (.method id name)
      else if name = defaultsField || name = withField then none
      else active.bind fun extension => world.slot? extension name := by
  cases active <;> rw [slot?] <;> rfl

/-- The slot depends on no more than the names that are registered. -/
theorem slot?_congr
    (h : ∀ client, (after.methods client).has name = (world.methods client).has name)
    (object : Dynamic) : after.slot? object name = world.slot? object name := by
  fun_induction World.slot? world object name with
  | case1 id => rw [slot?]
  | case2 id active hknown => rw [slot?_client, h, if_pos hknown]
  | case3 id active hunknown hown => rw [slot?_client, h, if_neg hunknown, if_pos hown]
  | case4 id hunknown hfree => rw [slot?_client, h, if_neg hunknown, if_neg hfree]; rfl
  | case5 id hunknown hfree extension ih =>
    rw [slot?_client, h, if_neg hunknown, if_neg hfree]
    exact ih
  | _ => rw [slot?]

theorem name_of_slot? (h : world.slot? object name = some slot) : slot.name = name := by
  fun_induction World.slot? world object name with
  | case1 id => cases h; rfl
  | case2 id active hknown => cases h; rfl
  | case5 id hunknown hfree extension ih => exact ih h
  | _ => cases h

/-- If all is there that an object refers to, then its slots take functions. -/
theorem accepts_of_slot? (hthere : object.isThere world = true)
    (h : world.slot? object name = some slot) : world.Accepts slot := by
  fun_induction World.slot? world object name with
  | case1 id =>
    cases h
    have hid : id < world.bags.length := by simpa [Dynamic.isThere] using hthere
    exact hid
  | case2 id active hknown =>
    cases h
    exact hknown
  | case5 id hunknown hfree extension ih =>
    rw [Dynamic.isThere, Bool.and_eq_true] at hthere
    exact ih hthere.2 h
  | _ => cases h

/-- Only functions are taken. -/
theorem set_of_asFunction?_eq_none (h : object.IsStandard) {value : Value}
    (hvalue : value.asFunction? = none) (world : World) (name : String) :
    world.set object name value = (false, world) := by
  fun_induction World.set world object name value with
  | case6 id f hf | case10 id active hknown f hf =>
    -- Bags and clients take functions.
    rw [hf] at hvalue
    cases hvalue
  | case8 =>
    -- Tables of values take everything.
    cases h
  | case14 id hunknown hfree extension ih =>
    cases h with
    | client _ hactive => exact ih (hactive extension rfl)
  | _ => rfl

/-- A function fills the slot of the property, if there is one. -/
theorem set_function (h : object.IsStandard) (world : World) (name : String) (f : Function) :
    world.set object name (.function f) =
      match world.slot? object name with
      | some slot => (true, world.fill slot f)
      | none => (false, world) := by
  induction h with
  | bag id => rw [set, slot?]; rfl
  | @client id active h ih =>
    rw [slot?_client]
    by_cases hknown : (world.methods id).has name = true
    · rw [if_pos hknown]
      exact @setView_known world name ⟨id, active⟩ hknown (.function f)
    · -- The name belongs to the client itself, or it is for the extension.
      rw [if_neg hknown]
      cases active with
      | none =>
        rw [set]
        simp only [if_neg hknown]
        split <;> rfl
      | some extension =>
        rw [set]
        simp only [if_neg hknown]
        split
        next => rfl
        next => exact ih extension rfl
  | function | inert | route | fetcher | pathCaller => rw [set, slot?]

/-- Reading gets to the slot of the property. -/
theorem get_of_slot? {f : Function} (hslot : world.slot? object name = some slot)
    (hread : world.read? slot = some f) : world.get object name = (some (.function f), world) := by
  fun_induction World.slot? world object name with
  | case1 id =>
    cases hslot
    rw [read?] at hread
    rw [get, hread]
    rfl
  | case2 id active hknown =>
    cases hslot
    rw [read?] at hread
    rw [get.eq_def]
    simp only [hread]
  | case5 id hunknown hfree extension ih =>
    have hnone := Entries.has_eq_false_iff.mp (Bool.eq_false_iff.mpr hunknown)
    simp only [Bool.or_eq_true, decide_eq_true_eq, not_or] at hfree
    rw [get]
    simp only [hnone, if_neg hfree.1, if_neg hfree.2, ih hslot]
  | _ => cases hslot

end Slot

/-! ## Writes in the states of a program -/

/-- What changes is one slot, which is filled with a function. -/
structure OnlyFills (world : World) (slot : Slot) (f : Function) (after : World) : Prop where
  /-- The slot is a name that the table of a client has, or a name in a bag that there is. -/
  accepts : world.Accepts slot
  here : after.read? slot = some f
  elsewhere : ∀ other, other ≠ slot → after.read? other = world.read? other
  /-- Everything that is not in a slot stays as it is. -/
  handler : ∀ client, after.handler? client = world.handler? client
  defaults : ∀ client, after.defaults client = world.defaults client
  names : ∀ client, (after.methods client).keys = (world.methods client).keys
  clients : after.clients.length = world.clients.length
  bags : after.bags.length = world.bags.length
  tables : after.tables = world.tables
  functions : after.functions = world.functions
  recorded : after.recorded = world.recorded
  sent : after.sent = world.sent

theorem onlyFills_fill {world : World} {slot : Slot} (h : world.Accepts slot) (f : Function) :
    world.OnlyFills slot f (world.fill slot f) where
  accepts := h
  here := by rw [read?_fill h, if_pos rfl]
  elsewhere := fun other hne => by rw [read?_fill h, if_neg hne]
  handler := handler?_fill slot f
  defaults := defaults_fill slot f
  names := keys_methods_fill h f
  clients := by cases slot <;> simp [fill, replaceMethod, modifyShared, modifyBag]
  bags := by cases slot <;> simp [fill, replaceMethod, modifyShared, modifyBag]
  tables := by cases slot <;> rfl
  functions := by cases slot <;> rfl
  recorded := by cases slot <;> rfl
  sent := by cases slot <;> rfl

end World

namespace Program

open World (OnlyFills)

/-- **Writes are coherent or have no effect**, in every state that a program gets to, and through
every view that remembers nothing or an object that comes with clients.  What is taken is a function
for a property that has a slot; then it is what is read through the view, and this slot is all that
has changed.  If a value is not taken, then it is no function or there is no slot, and what is read
through any view is what was read before. -/
theorem writes_of_run [Url.DomainToAscii] (network : Http.Network) (steps : Nat)
    (actions : List Action) :
    let program := run network steps actions
    ∀ view ∈ program.views, (∀ extension ∈ view.active, extension.IsStandard) →
      ∀ name value,
        let written := program.world.setView view name value
        (written.1 = true → ∃ f slot, value = .function f ∧
          written.2.getView view name = (.function f, written.2) ∧
          program.world.slot? view.toDynamic name = some slot ∧ slot.name = name ∧
          program.world.OnlyFills slot f written.2) ∧
        (written.1 = false →
          (∀ f, value = .function f → program.world.slot? view.toDynamic name = none) ∧
          ∀ other property,
            written.2.getView other property = program.world.getView other property) := by
  intro program view hview hactive name value written
  have hthere : view.toDynamic.isThere program.world = true := sound_run actions view hview
  have hstandard : view.toDynamic.IsStandard := .client view.client hactive
  have hset : written = program.world.set view.toDynamic name value := rfl
  cases value with
  | function f =>
    rw [World.set_function hstandard] at hset
    cases hslot : program.world.slot? view.toDynamic name with
    | none =>
      rw [hslot] at hset
      simp [hset]
    | some slot =>
      rw [hslot] at hset
      have haccepts := World.accepts_of_slot? hthere hslot
      have honly := World.onlyFills_fill haccepts f
      -- The slot of the property is the same one afterwards.
      have hafter : (program.world.fill slot f).slot? view.toDynamic name = some slot := by
        rw [World.slot?_congr (fun client => World.has_fill haccepts f client name), hslot]
      have hget : (program.world.fill slot f).getView view name =
          (.function f, program.world.fill slot f) := by
        rw [World.getView, World.get_of_slot? hafter honly.here]
        rfl
      rw [hset]
      exact ⟨fun _ => ⟨f, slot, rfl, hget, rfl, World.name_of_slot? hslot, honly⟩, nofun⟩
  | undefined | data | object =>
    rw [World.set_of_asFunction?_eq_none hstandard rfl] at hset
    simp [hset]

/-- One client has a function; another one has a view of it as its handler. -/
def nestedActions : List Action :=
  [.create .empty, .create .empty, .extend 0 (.methods [("ask", .mk 0 (.argument 0))]),
    .extend 1 (.handler (.client 0 (some (.bag 0))))]

theorem run_nestedActions : run .unreachable 0 nestedActions =
    ⟨⟨[⟨.empty, [("ask", .mk 0 (.argument 0))], none⟩,
        ⟨.empty, [], some (.client 0 (some (.bag 0)))⟩],
      [[("ask", .mk 0 (.argument 0))]], [], 0, [], []⟩,
      [⟨0, none⟩, ⟨1, none⟩, ⟨0, some (.bag 0)⟩,
        ⟨1, some (.client 0 (some (.bag 0)))⟩]⟩ := by
  simp [run, nestedActions, step, World.newClient, World.empty, World.apply, World.addMethods,
    World.setHandler, World.newBag, World.modifyShared, Extension.isThere, Dynamic.isThere]
  exact ⟨rfl, rfl⟩

/-- Through the view of the second client, the function of the first one is replaced.  The table of
the first client hides that name of the bag, and a new name goes into the bag. -/
theorem writes_of_nestedActions :
    let program := run .unreachable 0 nestedActions
    let view : View := ⟨1, some (.client 0 (some (.bag 0)))⟩
    let f : Function := .mk 1 (.argument 1)
    view ∈ program.views ∧
    (∃ after, program.world.setView view "ask" (.function f) = (true, after) ∧
      after.getView view "ask" = (.function f, after) ∧
      program.world.OnlyFills (.method 0 "ask") f after) ∧
    (∃ after, program.world.setView view "tell" (.function f) = (true, after) ∧
      after.getView view "tell" = (.function f, after) ∧
      program.world.OnlyFills (.bag 0 "tell") f after) ∧
    (program.world.setView view "with" (.function f)).1 = false := by
  intro program view f
  have hview : view ∈ program.views := by simp [program, view, run_nestedActions]
  have hactive : ∀ extension ∈ view.active, extension.IsStandard := by
    rintro extension ⟨rfl⟩
    refine .client 0 ?_
    rintro bag ⟨rfl⟩
    exact .bag 0
  -- The slots of the three names.
  have hask : program.world.slot? view.toDynamic "ask" = some (.method 0 "ask") := by
    simp [program, view, run_nestedActions, View.toDynamic, World.slot?, World.methods, Entries.has,
      Entries.find?, World.defaultsField, World.withField]
  have htell : program.world.slot? view.toDynamic "tell" = some (.bag 0 "tell") := by
    simp [program, view, run_nestedActions, View.toDynamic, World.slot?, World.methods, Entries.has,
      Entries.find?, World.defaultsField, World.withField]
  have hwith : program.world.slot? view.toDynamic "with" = none := by
    simp [program, view, run_nestedActions, View.toDynamic, World.slot?, World.methods, Entries.has,
      World.withField]
  have hwrites (name : String) := writes_of_run .unreachable 0 nestedActions view hview hactive name
  have htaken {name : String} {slot : Slot}
      (hslot : program.world.slot? view.toDynamic name = some slot) :
      ∃ after, program.world.setView view name (.function f) = (true, after) ∧
        after.getView view name = (.function f, after) ∧ program.world.OnlyFills slot f after := by
    obtain ⟨htrue, hfalse⟩ := hwrites name (.function f)
    rcases hwritten : program.world.setView view name (.function f) with ⟨_ | _, after⟩
    · rw [hwritten] at hfalse
      rw [(hfalse rfl).1 f rfl] at hslot
      cases hslot
    · rw [hwritten] at htrue
      obtain ⟨g, other, hg, hget, hother, -, honly⟩ := htrue rfl
      cases hg
      cases hslot.symm.trans hother
      exact ⟨after, rfl, hget, honly⟩
  refine ⟨hview, htaken hask, htaken htell, ?_⟩
  rw [Bool.eq_false_iff]
  intro hyes
  obtain ⟨g, slot, -, -, hslot, -⟩ := (hwrites "with" (.function f)).1 hyes
  rw [hwith] at hslot
  cases hslot

end Program

end ApiToolkit.Client
