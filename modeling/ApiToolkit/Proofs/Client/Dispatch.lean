import Mathlib.Data.Finset.Basic
import Mathlib.Data.Finset.Insert
import Mathlib.Logic.Relation
import ApiToolkit.Client.Call
/-!
# Dispatch of handlers, step by step

A call is run on a machine with a stack.  The machine has one set for all clients that are being
dispatched: a client is put into it when its handler is called, and taken out when the handler has
replied.  `World.call` passes the free clients on as an argument instead, so it cannot lose track of
them; that the two agree is proved here.

## What is inside

- `Dispatch.State`, `Dispatch.step`: the machine.
- `Dispatch.Balanced`, `Dispatch.balanced_of_steps`: at any moment, the stack holds every client at
  most once, and the set holds the clients of the stack and those from before.
- `Dispatch.Gives`, `Dispatch.gives_callValue`: every call comes to an end, with what
  `World.callValue` gives and with the set it began with.
-/

namespace ApiToolkit.Client.Dispatch

/-! ## The machine -/

/-- What is done after a reply. -/
inductive Frame where
  /-- The client is left, as its handler has replied. -/
  | leave (client : Nat)
  /-- A function makes its next call. -/
  | next (first : Call) (more : List Call) (args : List Value)

/-- What the machine is about to do. -/
inductive Control where
  | call (target : Value) (args : List Value)
  | reply (reply : Reply)

/-- A state of the machine. -/
structure State where
  world : World
  /-- The clients that are being dispatched. -/
  dispatching : Finset Nat
  /-- What is left to be done, the innermost call first. -/
  stack : List Frame
  control : Control

namespace State

/-- Calls a client.  A client without a handler and one that is being dispatched give no value. -/
def enter (state : State) (client : Nat) (args : List Value) : State :=
  match state.world.handler? client with
  | none => { state with control := .reply (.done (.ok .undefined)) }
  | some handler =>
    if client ∈ state.dispatching then
      { state with control := .reply (.done (.ok .undefined)) }
    else
      { state with
        dispatching := insert client state.dispatching
        stack := .leave client :: state.stack
        control := .call (.object handler) args }

/-- Makes the first call of several, and remembers the others. -/
def makeCalls (state : State) (first : Call) (more : List Call) (args : List Value) : State :=
  { state with
    stack := match more with
      | [] => state.stack
      | next :: rest => .next next rest args :: state.stack
    control := .call first.target (first.argsFrom args) }

/-- Lets a value reply that calls nothing itself. -/
def reply (state : State) (target : Value) (args : List Value) : State :=
  -- No client is called, so it does not matter which clients are free.
  let (reply, world) := state.world.callValue [] target args
  { state with world := world, control := .reply reply }

end State

/-- One step.  The machine halts when the outermost call has replied. -/
def step (state : State) : Option State :=
  match state.control with
  | .call (.object (.client client _)) args => some (state.enter client args)
  | .call (.object (.function f)) args => some { state with control := .call (.function f) args }
  | .call (.object (.table _ (some f) _)) args =>
    some { state with control := .call (.function f) args }
  | .call (.function (.mk _ (.forward first more))) args => some (state.makeCalls first more args)
  | .call target args => some (state.reply target args)
  | .reply _ =>
    match state.stack with
    | [] => none
    | .leave client :: rest =>
      some { state with dispatching := state.dispatching.erase client, stack := rest }
    | .next first more args :: rest =>
      some ({ state with stack := rest }.makeCalls first more args)

/-- Some number of steps. -/
abbrev Steps : State → State → Prop :=
  Relation.ReflTransGen fun state next => step state = some next

/-! ## Balance -/

/-- The client that is left with a frame. -/
def Frame.client? : Frame → Option Nat
  | .leave client => some client
  | .next .. => none

/-- The clients whose handlers have been called and have not replied, the innermost one first. -/
def entered (stack : List Frame) : List Nat := stack.filterMap Frame.client?

/-- What a step does to the set and to the clients on the stack. -/
inductive Moves (state next : State) : Prop where
  /-- Both stay. -/
  | stay (set : next.dispatching = state.dispatching)
    (stack : entered next.stack = entered state.stack)
  /-- A client is entered that was not being dispatched. -/
  | enter (client : Nat) (new : client ∉ state.dispatching)
    (set : next.dispatching = insert client state.dispatching)
    (stack : entered next.stack = client :: entered state.stack)
  /-- The innermost client is left. -/
  | leave (client : Nat) (set : next.dispatching = state.dispatching.erase client)
    (stack : entered state.stack = client :: entered next.stack)

theorem entered_makeCalls (state : State) (first : Call) (more : List Call) (args : List Value) :
    entered (state.makeCalls first more args).stack = entered state.stack := by
  cases more with
  | nil => rfl
  | cons next rest => rfl

theorem moves_enter (state : State) (client : Nat) (args : List Value) :
    Moves state (state.enter client args) := by
  rw [State.enter]
  split
  next => exact .stay rfl rfl
  next handler _ =>
    split
    next => exact .stay rfl rfl
    next hnew => exact .enter client hnew rfl rfl

theorem moves_of_step {state next : State} (h : step state = some next) : Moves state next := by
  rw [step] at h
  -- One case for each rule of the machine; only calling a client and leaving one move anything.
  split at h
  next client _ args _ =>
    cases h
    exact moves_enter state client args
  next =>
    cases h
    exact .stay rfl rfl
  next =>
    cases h
    exact .stay rfl rfl
  next first more args _ =>
    cases h
    exact .stay rfl (entered_makeCalls state first more args)
  next =>
    cases h
    exact .stay rfl rfl
  next =>
    split at h
    next => cases h
    next client rest hstack =>
      cases h
      refine .leave client rfl ?_
      rw [hstack]
      rfl
    next first more args rest hstack =>
      cases h
      refine .stay rfl ?_
      rw [entered_makeCalls, hstack]
      rfl

/-- The set and the stack agree, for a call that began while the clients `outside` were being
dispatched. -/
structure Balanced (outside : Finset Nat) (state : State) : Prop where
  /-- No client is entered twice. -/
  once : (entered state.stack).Nodup
  /-- No client is entered that was being dispatched before. -/
  apart : ∀ client ∈ entered state.stack, client ∉ outside
  /-- The set holds the clients that were entered and those from before. -/
  mem_dispatching : ∀ client,
    client ∈ state.dispatching ↔ client ∈ entered state.stack ∨ client ∈ outside

theorem balanced_of_step {outside : Finset Nat} {state next : State}
    (hbalanced : Balanced outside state) (h : step state = some next) : Balanced outside next := by
  obtain ⟨once, apart, hmem⟩ := hbalanced
  cases moves_of_step h with
  | stay hset hstack =>
    refine ⟨?_, ?_, ?_⟩
    · rw [hstack]
      exact once
    · rw [hstack]
      exact apart
    · rw [hset, hstack]
      exact hmem
  | enter client hnew hset hstack =>
    -- A client that is not in the set is neither on the stack nor one from before.
    rw [hmem, not_or] at hnew
    refine ⟨?_, ?_, ?_⟩
    · rw [hstack]
      exact List.nodup_cons.mpr ⟨hnew.1, once⟩
    · rw [hstack]
      exact List.forall_mem_cons.mpr ⟨hnew.2, apart⟩
    · intro other
      rw [hset, hstack, Finset.mem_insert, hmem, List.mem_cons, or_assoc]
  | leave client hset hstack =>
    -- The client is on top of the stack, and nowhere else.
    rw [hstack] at once apart hmem
    obtain ⟨hnot, once⟩ := List.nodup_cons.mp once
    obtain ⟨hclient, apart⟩ := List.forall_mem_cons.mp apart
    refine ⟨once, apart, fun other => ?_⟩
    rw [hset, Finset.mem_erase, hmem, List.mem_cons]
    constructor
    · rintro ⟨hne, (heq | hin) | hout⟩
      · exact absurd heq hne
      · exact .inl hin
      · exact .inr hout
    · rintro (hin | hout)
      · exact ⟨fun heq => hnot (heq ▸ hin), .inl (.inr hin)⟩
      · exact ⟨fun heq => hclient (heq ▸ hout), .inr hout⟩

def start (world : World) (dispatching : Finset Nat) (target : Value) (args : List Value) : State :=
  ⟨world, dispatching, [], .call target args⟩

/-- The state in which the machine halts. -/
def finish (dispatching : Finset Nat) (result : Reply × World) : State :=
  ⟨result.2, dispatching, [], .reply result.1⟩

theorem balanced_start (world : World) (dispatching : Finset Nat) (target : Value)
    (args : List Value) : Balanced dispatching (start world dispatching target args) := by
  refine ⟨List.nodup_nil, ?_, ?_⟩
  · intro client hclient
    cases hclient
  · intro client
    exact ⟨.inr, fun h => h.resolve_left (List.not_mem_nil)⟩

theorem balanced_of_steps {outside : Finset Nat} {state next : State}
    (hbalanced : Balanced outside state) (h : Steps state next) : Balanced outside next := by
  induction h with
  | refl => exact hbalanced
  | tail _ hstep ih => exact balanced_of_step ih hstep

/-! ## Calls come to an end -/

/-- The free clients are those that are not being dispatched. -/
structure Free (world : World) (dispatching : Finset Nat) (free : List Nat) : Prop where
  /-- No client is listed twice. -/
  once : free.Nodup
  /-- Of the clients that exist, those are listed that may be entered. -/
  mem_iff : ∀ client < world.clients.length, client ∈ free ↔ client ∉ dispatching

theorem lt_length_of_handler? {world : World} {client : Nat} {handler : Dynamic}
    (h : world.handler? client = some handler) : client < world.clients.length := by
  obtain ⟨shared, hshared, -⟩ := Option.bind_eq_some_iff.mp h
  exact (List.getElem?_eq_some_iff.mp hshared).1

theorem Free.erase {world : World} {dispatching : Finset Nat} {free : List Nat} (client : Nat)
    (h : Free world dispatching free) :
    Free world (insert client dispatching) (free.erase client) := by
  refine ⟨h.once.erase client, fun other hother => ?_⟩
  rw [h.once.mem_erase_iff, h.mem_iff other hother, Finset.mem_insert, not_or]

/-- A call gives this reply and this world.  Around it, the clients that are being dispatched and
the rest of the stack are the same before and after. -/
structure Gives (world : World) (dispatching : Finset Nat) (target : Value) (args : List Value)
    (result : Reply × World) : Prop where
  /-- The machine gets to the reply. -/
  steps : ∀ stack, Steps ⟨world, dispatching, stack, .call target args⟩
    ⟨result.2, dispatching, stack, .reply result.1⟩
  /-- No client appears or disappears. -/
  clients : result.2.clients.length = world.clients.length

theorem Free.of_length {world after : World} {dispatching : Finset Nat} {free : List Nat}
    (h : Free world dispatching free) (hlength : after.clients.length = world.clients.length) :
    Free after dispatching free := by
  refine ⟨h.once, fun client hclient => h.mem_iff client ?_⟩
  rw [← hlength]
  exact hclient

theorem length_applyArgument (world : World) (client : Nat) (args : List Value) :
    (world.applyArgument client args).2.clients.length = world.clients.length := by
  unfold World.applyArgument
  split
  · exact List.length_modify ..
  · exact List.length_modify ..
  · rfl

theorem gives_reply {world : World} {dispatching : Finset Nat} {target : Value} {args : List Value}
    {result : Reply × World}
    (hstep : ∀ stack, step ⟨world, dispatching, stack, .call target args⟩ =
      some (State.reply ⟨world, dispatching, stack, .call target args⟩ target args))
    (hresult : world.callValue [] target args = result)
    (hlength : result.2.clients.length = world.clients.length) :
    Gives world dispatching target args result := by
  refine ⟨fun stack => .single ?_, hlength⟩
  rw [hstep, State.reply, hresult]

theorem Gives.of_step {world : World} {dispatching : Finset Nat} {target inner : Value}
    {args : List Value} {result : Reply × World}
    (h : Gives world dispatching inner args result)
    (hstep : ∀ stack, step ⟨world, dispatching, stack, .call target args⟩ =
      some ⟨world, dispatching, stack, .call inner args⟩) :
    Gives world dispatching target args result :=
  ⟨fun stack => .head (hstep stack) (h.steps stack), h.clients⟩

theorem gives_of_handler?_eq_none {world : World} {client : Nat}
    (hhandler : world.handler? client = none) (dispatching : Finset Nat) (active : Option Dynamic)
    (args : List Value) :
    Gives world dispatching (.object (.client client active)) args
      (.done (.ok .undefined), world) := by
  refine ⟨fun stack => .single ?_, rfl⟩
  simp only [step, State.enter, hhandler]

theorem gives_of_mem_dispatching {world : World} {dispatching : Finset Nat} {client : Nat}
    {handler : Dynamic} (hhandler : world.handler? client = some handler)
    (hmem : client ∈ dispatching) (active : Option Dynamic) (args : List Value) :
    Gives world dispatching (.object (.client client active)) args
      (.done (.ok .undefined), world) := by
  refine ⟨fun stack => .single ?_, rfl⟩
  simp only [step, State.enter, hhandler, if_pos hmem]

/-- Any other client gives what its handler gives while the client is being dispatched. -/
theorem gives_of_handler? {world : World} {dispatching : Finset Nat} {client : Nat}
    {handler : Dynamic} (hhandler : world.handler? client = some handler)
    (hnew : client ∉ dispatching) (active : Option Dynamic) {args : List Value}
    {result : Reply × World}
    (h : Gives world (insert client dispatching) (.object handler) args result) :
    Gives world dispatching (.object (.client client active)) args result := by
  -- The client goes into the set before its handler is called, and out of it afterwards.
  refine ⟨fun stack => ?_, h.clients⟩
  have henter : step ⟨world, dispatching, stack, .call (.object (.client client active)) args⟩ =
      some ⟨world, insert client dispatching, .leave client :: stack,
        .call (.object handler) args⟩ := by
    simp only [step, State.enter, hhandler, if_neg hnew]
  have hleave : step ⟨result.2, insert client dispatching, .leave client :: stack,
      .reply result.1⟩ = some ⟨result.2, dispatching, stack, .reply result.1⟩ := by
    simp only [step, Finset.erase_insert hnew]
  exact .head henter ((h.steps _).tail hleave)

mutual

theorem gives_call {world : World} {dispatching : Finset Nat} {free : List Nat}
    (h : Free world dispatching free) (object : Dynamic) (args : List Value) :
    Gives world dispatching (.object object) args (world.call free object args) := by
  cases object with
  | function f =>
    rw [World.call]
    exact (gives_callFunction h f args).of_step fun stack => rfl
  | client id active =>
    rw [World.call]
    split
    next hhandler => exact gives_of_handler?_eq_none hhandler _ _ _
    next handler hhandler =>
      have hiff := h.mem_iff id (lt_length_of_handler? hhandler)
      -- The list and the set agree on whether the client may be entered.
      split
      next hfree =>
        have hlt : (free.erase id).length < free.length := by
          rw [List.length_erase_of_mem hfree]
          exact Nat.pred_lt (List.length_pos_of_mem hfree).ne'
        exact gives_of_handler? hhandler (hiff.mp hfree) _ (gives_call (h.erase id) handler args)
      next hfree =>
        exact gives_of_mem_dispatching hhandler (not_not.mp (hiff.not.mp hfree)) _ _
  | table id call isWritable =>
    cases call with
    | none =>
      rw [World.call]
      exact gives_reply (fun stack => rfl) (by rw [World.callValue, World.call]) rfl
    | some f =>
      rw [World.call]
      exact (gives_callFunction h f args).of_step fun stack => rfl
  | bag | inert | route | fetcher | pathCaller =>
    rw [World.call]
    exact gives_reply (fun stack => rfl) (by rw [World.callValue, World.call]) rfl
termination_by (free.length, sizeOf object)

theorem gives_callValue {world : World} {dispatching : Finset Nat} {free : List Nat}
    (h : Free world dispatching free) (value : Value) (args : List Value) :
    Gives world dispatching value args (world.callValue free value args) := by
  cases value with
  | function f =>
    rw [World.callValue]
    exact gives_callFunction h f args
  | object object =>
    rw [World.callValue]
    exact gives_call h object args
  | undefined | data =>
    rw [World.callValue]
    exact gives_reply (fun stack => rfl) (by rw [World.callValue]) rfl
termination_by (free.length, sizeOf value)

theorem steps_callAll {world : World} {dispatching : Finset Nat} {free : List Nat}
    (h : Free world dispatching free) (first : Call) (more : List Call) (args : List Value) :
    (∀ stack control, Steps (State.makeCalls ⟨world, dispatching, stack, control⟩ first more args)
      ⟨(world.callAll free first more args).2, dispatching, stack,
        .reply (world.callAll free first more args).1⟩) ∧
    (world.callAll free first more args).2.clients.length = world.clients.length := by
  have hlt : sizeOf first.target < sizeOf first := by
    cases first
    simp only [Call.target, Call.mk.sizeOf_spec]
    omega
  have hfirst := gives_callValue h first.target (first.argsFrom args)
  cases more with
  | nil =>
    rw [World.callAll]
    exact ⟨fun stack control => hfirst.steps stack, hfirst.clients⟩
  | cons next rest =>
    -- The first reply is dropped, but the other calls are made in the world after it.
    obtain ⟨hsteps, hlength⟩ := steps_callAll (h.of_length hfirst.clients) next rest args
    rw [World.callAll]
    refine ⟨fun stack control => ?_, hlength.trans hfirst.clients⟩
    exact (hfirst.steps (.next next rest args :: stack)).trans (.head rfl (hsteps stack _))
termination_by (free.length, 1 + sizeOf first + sizeOf more)

theorem gives_callFunction {world : World} {dispatching : Finset Nat} {free : List Nat}
    (h : Free world dispatching free) (f : Function) (args : List Value) :
    Gives world dispatching (.function f) args (world.callFunction free f args) := by
  obtain ⟨id, body⟩ := f
  cases body with
  | constant | argument | describe | failure | later | request =>
    rw [World.callFunction]
    exact gives_reply (fun stack => rfl) (by rw [World.callValue, World.callFunction]) rfl
  | forward first more =>
    obtain ⟨hsteps, hlength⟩ := steps_callAll h first more args
    rw [World.callFunction]
    exact ⟨fun stack => .head rfl (hsteps stack _), hlength⟩
  | applyHandler client =>
    rw [World.callFunction]
    exact gives_reply (fun stack => rfl) (by rw [World.callValue, World.callFunction])
      (length_applyArgument world client args)
termination_by (free.length, sizeOf f)

end

/-! ## One run -/

/-- The machine has one way to go: what a state gets to lies on its way to the end. -/
theorem steps_of_steps_halted {state next final : State} (hnext : Steps state next)
    (hfinal : Steps state final) (hhalt : step final = none) : Steps next final := by
  induction hnext with
  | refl => exact hfinal
  | tail _ hstep ih =>
    -- The state before has one step to the end at least, and it is the one that was taken.
    rcases Relation.ReflTransGen.cases_head ih with heq | ⟨other, hother, hrest⟩
    · rw [heq, hhalt] at hstep
      cases hstep
    · rw [hother] at hstep
      cases hstep
      exact hrest

/-- What a call gives is determined. -/
theorem Gives.unique {world : World} {dispatching : Finset Nat} {target : Value}
    {args : List Value} {result other : Reply × World}
    (h : Gives world dispatching target args result)
    (hother : Gives world dispatching target args other) : result = other := by
  have hsteps := steps_of_steps_halted (h.steps []) (hother.steps []) rfl
  -- Nothing follows on the first end, so it is the second one.
  rcases Relation.ReflTransGen.cases_head hsteps with heq | ⟨next, hnext, -⟩
  · cases result
    cases other
    cases heq
    rfl
  · cases hnext

/-- The clients that are not being dispatched. -/
def freeOutside (world : World) (dispatching : Finset Nat) : List Nat :=
  world.everyClient.filter (· ∉ dispatching)

theorem free_freeOutside (world : World) (dispatching : Finset Nat) :
    Free world dispatching (freeOutside world dispatching) := by
  refine ⟨List.nodup_range.filter _, fun client hclient => ?_⟩
  simp [freeOutside, World.everyClient, hclient]

theorem freeOutside_empty (world : World) : freeOutside world ∅ = world.everyClient := by
  simp [freeOutside]

end ApiToolkit.Client.Dispatch
