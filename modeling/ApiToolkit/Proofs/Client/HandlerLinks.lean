import Mathlib.Data.Finset.Dedup
import Mathlib.Data.Finset.Lattice.Lemmas
import ApiToolkit.Proofs.Client.Dispatch
/-!
# Handlers that are views

A view of a client may be the handler of another one.  Calls follow such links up to the first
client with another handler, with none, or that was passed before.

## What is inside

- `Dispatch.Follow`: following the links.
- `Dispatch.Gives.of_follow`: a call gives what the last client of the links gives.
- `Dispatch.exists_follow_end`: the links have an end.
- `Dispatch.dispatch_terminates_and_balances`: dispatch of handlers as a whole.
-/

namespace ApiToolkit.Client.Dispatch

/-! ## Following links -/

/-- Following handler links from one client leads to another one.  The clients that are passed
before it are listed in order. -/
inductive Follow (world : World) : Nat → List Nat → Nat → Prop where
  /-- A client is reached from itself. -/
  | here (client : Nat) : Follow world client [] client
  /-- A client is passed whose handler is a view. -/
  | link {client next last : Nat} {active : Option Dynamic} {path : List Nat}
      (handler : world.handler? client = some (.client next active))
      (rest : Follow world next path last) : Follow world client (client :: path) last

/-- The links end at a client whose handler, if there is one, is no view. -/
def LinksEnd (world : World) (client : Nat) : Prop :=
  ∀ next active, world.handler? client ≠ some (.client next active)

section Links

variable {world : World} {client last : Nat} {path : List Nat}

theorem Follow.snoc {next : Nat} {active : Option Dynamic} (h : Follow world client path last)
    (handler : world.handler? last = some (.client next active)) :
    Follow world client (path ++ [last]) next := by
  induction h with
  | here client => exact .link handler (.here next)
  | link first _ ih => exact .link first (ih handler)

/-- The clients that are passed have handlers, so they exist. -/
theorem Follow.lt_length (h : Follow world client path last) :
    ∀ passed ∈ path, passed < world.clients.length := by
  induction h with
  | here client => exact List.forall_mem_nil _
  | link handler _ ih => exact List.forall_mem_cons.mpr ⟨lt_length_of_handler? handler, ih⟩

/-- From a client that is passed, the last one is reached too. -/
theorem Follow.exists_of_mem {passed : Nat} (h : Follow world client path last)
    (hmem : passed ∈ path ++ [last]) :
    ∃ rest, Follow world passed rest last ∧ rest.length ≤ path.length := by
  induction h with
  | here client =>
    obtain rfl := List.mem_singleton.mp hmem
    exact ⟨[], .here passed, Nat.le_refl _⟩
  | @link client next last active path handler rest ih =>
    rcases List.mem_cons.mp hmem with rfl | hmem
    · exact ⟨_, .link handler rest, Nat.le_refl _⟩
    · obtain ⟨shorter, hfollow, hle⟩ := ih hmem
      exact ⟨shorter, hfollow, hle.trans (Nat.le_succ _)⟩

/-- There is one way to a client where the links end. -/
theorem Follow.unique {other : List Nat} (h : Follow world client path last)
    (hother : Follow world client other last)
    (hend : LinksEnd world last) : path = other := by
  induction h generalizing other with
  | here client =>
    cases hother with
    | here => rfl
    | link handler rest => exact absurd handler (hend _ _)
  | link handler rest ih =>
    cases hother with
    | here => exact absurd handler (hend _ _)
    | link handler' rest' =>
      rw [handler] at handler'
      cases handler'
      rw [ih rest' hend]

/-- No client is passed twice on the way to a client where the links end. -/
theorem Follow.nodup (h : Follow world client path last)
    (hend : LinksEnd world last) :
    (path ++ [last]).Nodup := by
  induction h with
  | here client => exact List.nodup_singleton client
  | @link client next last active path handler rest ih =>
    refine List.nodup_cons.mpr ⟨fun hmem => ?_, ih hend⟩
    -- A second visit would give a shorter way to the end.
    obtain ⟨shorter, hfollow, hle⟩ := rest.exists_of_mem hmem
    have heq := (Follow.link handler rest).unique hfollow hend
    rw [← heq, List.length_cons] at hle
    exact absurd hle (Nat.not_succ_le_self _)

/-- Distinct clients are no more than there are. -/
theorem length_le_of_nodup {clients : List Nat} (hnodup : clients.Nodup)
    (hlt : ∀ client ∈ clients, client < world.clients.length) :
    clients.length ≤ world.clients.length := by
  have hsubset : clients ⊆ world.everyClient := by
    intro client hclient
    exact List.mem_range.mpr (hlt client hclient)
  have hle := (hnodup.subperm hsubset).length_le
  rw [World.everyClient, List.length_range] at hle
  exact hle

/-- The links end, or come back to a client that was passed. -/
theorem Follow.exists_end {path : List Nat} {last : Nat} (h : Follow world client path last)
    (hnodup : path.Nodup) :
    ∃ path last, Follow world client path last ∧ path.Nodup ∧
      (last ∈ path ∨ LinksEnd world last) := by
  by_cases hmem : last ∈ path
  · exact ⟨path, last, h, hnodup, .inl hmem⟩
  by_cases hend : LinksEnd world last
  · exact ⟨path, last, h, hnodup, .inr hend⟩
  -- There is one more link, and clients enough for it.
  simp only [LinksEnd, not_forall, not_not] at hend
  obtain ⟨next, active, handler⟩ := hend
  have hnext := h.snoc handler
  have hnodup' : (path ++ [last]).Nodup := by
    rw [← List.concat_eq_append]
    exact List.Nodup.concat hmem hnodup
  have hlt : path.length < world.clients.length := by
    have hle := length_le_of_nodup hnodup' hnext.lt_length
    rw [List.length_append, List.length_singleton] at hle
    exact hle
  have hshorter : world.clients.length - (path ++ [last]).length <
      world.clients.length - path.length := by
    rw [List.length_append, List.length_singleton]
    omega
  exact hnext.exists_end hnodup'
termination_by world.clients.length - path.length

/-! ## Calls along links -/

/-- A call gives what calling the last client of the links gives while those before it are being
dispatched. -/
theorem Gives.of_follow {dispatching : Finset Nat} {args : List Value} {result : Reply × World}
    (h : Follow world client path last) (hnodup : path.Nodup)
    (hout : ∀ passed ∈ path, passed ∉ dispatching)
    (hlast : ∀ active, Gives world (path.toFinset ∪ dispatching) (.object (.client last active))
      args result) (active : Option Dynamic) :
    Gives world dispatching (.object (.client client active)) args result := by
  induction h generalizing dispatching active with
  | here client => simpa using hlast active
  | @link client next last between path handler rest ih =>
    obtain ⟨hnew, hnodup⟩ := List.nodup_cons.mp hnodup
    obtain ⟨hclient, hout⟩ := List.forall_mem_cons.mp hout
    -- The rest of the way is followed with one more client in the set.
    refine gives_of_handler? handler hclient active (ih hnodup ?_ ?_ between)
    · intro passed hpassed hmem
      rcases Finset.mem_insert.mp hmem with rfl | hmem
      · exact hnew hpassed
      · exact hout passed hpassed hmem
    · intro active
      rw [Finset.union_insert, ← Finset.insert_union, ← List.toFinset_cons]
      exact hlast active

/-- Links that come back to a client give no value. -/
theorem gives_of_follow_cycle (h : Follow world client path last) (hnodup : path.Nodup)
    (hmem : last ∈ path) (active : Option Dynamic) (args : List Value) :
    Gives world ∅ (.object (.client client active)) args (.done (.ok .undefined), world) := by
  refine .of_follow h hnodup (fun passed _ => Finset.notMem_empty passed) (fun active => ?_) active
  -- The client is in the set by now; whether it has a handler does not matter.
  cases hhandler : world.handler? last with
  | none => exact gives_of_handler?_eq_none hhandler _ active args
  | some handler =>
    have hdispatching : last ∈ path.toFinset ∪ ∅ :=
      Finset.mem_union_left _ (List.mem_toFinset.mpr hmem)
    exact gives_of_mem_dispatching hhandler hdispatching active args

/-- Links that end at a client without a handler give no value. -/
theorem gives_of_follow_none (h : Follow world client path last)
    (hhandler : world.handler? last = none) (active : Option Dynamic) (args : List Value) :
    Gives world ∅ (.object (.client client active)) args (.done (.ok .undefined), world) := by
  have hend : LinksEnd world last := by
    intro next active
    rw [hhandler]
    exact nofun
  have hnodup := (List.nodup_append.mp (h.nodup hend)).1
  exact .of_follow h hnodup (fun passed _ => Finset.notMem_empty passed)
    (fun active => gives_of_handler?_eq_none hhandler _ active args) active

/-- Links that end at a client with another handler give what that handler gives. -/
theorem gives_of_follow_handler {handler : Dynamic} {args : List Value} {result : Reply × World}
    (h : Follow world client path last) (hhandler : world.handler? last = some handler)
    (hview : ∀ next active, handler ≠ .client next active)
    (hresult : Gives world (path ++ [last]).toFinset (.object handler) args result)
    (active : Option Dynamic) :
    Gives world ∅ (.object (.client client active)) args result := by
  have hend : LinksEnd world last := by
    intro next active heq
    rw [hhandler] at heq
    cases heq
    exact hview next active rfl
  obtain ⟨hnodup, -, hdisjoint⟩ := List.nodup_append.mp (h.nodup hend)
  refine .of_follow h hnodup (fun passed _ => Finset.notMem_empty passed) (fun active => ?_) active
  -- The last client is entered too, as it was not passed before.
  refine gives_of_handler? hhandler ?_ active ?_
  · simp only [Finset.union_empty, List.mem_toFinset]
    exact fun hmem => hdisjoint last hmem last (List.mem_singleton_self last) rfl
  · have hset : insert last (path.toFinset ∪ ∅) = (path ++ [last]).toFinset := by
      ext passed
      simp
    rw [hset]
    exact hresult

end Links

/-! ## Dispatch of handlers -/

/-- A handler that replies without calling anything. -/
def RepliesAlone : Dynamic → Prop
  | .function f | .table _ (some f) _ => ∀ first more, f.body ≠ .forward first more
  | .client .. => False
  | .bag _ | .table _ none _ | .inert | .route .. | .fetcher .. | .pathCaller .. => True

/-- Which clients are free does not matter to a handler that replies without calling anything. -/
theorem call_eq_of_repliesAlone {handler : Dynamic} (h : RepliesAlone handler) (world : World)
    (free : List Nat) (args : List Value) :
    world.call free handler args = world.call [] handler args := by
  have hfunction : ∀ f : Function, (∀ first more, f.body ≠ .forward first more) →
      world.callFunction free f args = world.callFunction [] f args := by
    intro ⟨id, body⟩ hf
    cases body with
    | forward first more => exact absurd rfl (hf first more)
    | constant | argument | describe | failure | later | applyHandler | request =>
      rw [World.callFunction, World.callFunction]
  cases handler with
  | function f =>
    rw [World.call, World.call]
    exact hfunction f h
  | client => exact h.elim
  | table id call isWritable =>
    cases call with
    | none => rw [World.call, World.call]
    | some f =>
      rw [World.call, World.call]
      exact hfunction f h
  | bag | inert | route | fetcher | pathCaller => rw [World.call, World.call]

theorem start_eq_of_gives {world : World} {target : Value} {args : List Value}
    {result : Reply × World} (h : Gives world ∅ target args result) :
    world.start target args = result := by
  have hfree := free_freeOutside world ∅
  rw [freeOutside_empty] at hfree
  exact (gives_callValue hfree target args).unique h

/-- **Dispatch of handlers**: from every state on the way of a call, the machine halts with the
reply, and with the clients that were being dispatched before; on the way, no client is entered
twice.  From outside, links of views give what the first other handler gives, or no value if they
end without one or come back; and one of this is the case for every client. -/
theorem dispatch_terminates_and_balances (world : World) :
    (∀ (dispatching : Finset Nat) (target : Value) (args : List Value),
      let final :=
        finish dispatching (world.callValue (freeOutside world dispatching) target args)
      step final = none ∧
      ∀ state, Steps (start world dispatching target args) state →
        Steps state final ∧ Balanced dispatching state) ∧
    (∀ (client : Nat) (path : List Nat) (last : Nat), Follow world client path last →
      ∀ (active : Option Dynamic) (args : List Value),
      (∀ handler, world.handler? last = some handler →
        (∀ next active, handler ≠ .client next active) →
        world.start (.object (.client client active)) args =
          world.call (freeOutside world (path ++ [last]).toFinset) handler args ∧
        (RepliesAlone handler → world.start (.object (.client client active)) args =
          world.start (.object handler) args)) ∧
      (world.handler? last = none →
        world.start (.object (.client client active)) args = (.done (.ok .undefined), world)) ∧
      (path.Nodup → last ∈ path →
        world.start (.object (.client client active)) args = (.done (.ok .undefined), world))) ∧
    (∀ client, ∃ path last, Follow world client path last ∧ path.Nodup ∧
      (last ∈ path ∨ LinksEnd world last)) := by
  refine ⟨?_, ?_, ?_⟩
  · intro dispatching target args final
    have hgives := gives_callValue (free_freeOutside world dispatching) target args
    refine ⟨rfl, fun state hsteps => ?_⟩
    refine ⟨?_, balanced_of_steps (balanced_start world dispatching target args) hsteps⟩
    exact steps_of_steps_halted hsteps (hgives.steps []) rfl
  · intro client path last hfollow active args
    refine ⟨?_, ?_, ?_⟩
    · intro handler hhandler hview
      have hlast := gives_call (free_freeOutside world (path ++ [last]).toFinset) handler args
      have hstart := start_eq_of_gives (gives_of_follow_handler hfollow hhandler hview hlast active)
      refine ⟨hstart, fun halone => ?_⟩
      rw [hstart, World.start, World.callValue, call_eq_of_repliesAlone halone,
        call_eq_of_repliesAlone halone world world.everyClient]
    · intro hhandler
      exact start_eq_of_gives (gives_of_follow_none hfollow hhandler active args)
    · intro hnodup hmem
      exact start_eq_of_gives (gives_of_follow_cycle hfollow hnodup hmem active args)
  · intro client
    exact (Follow.here client).exists_end List.nodup_nil

/-- Five clients: links from the first one end at a function and those from the third one form a
cycle; the last one has no handler. -/
def linkedClients : World where
  clients :=
    [⟨.empty, [], some (.client 1 none)⟩,
      ⟨.empty, [], some (.function (.mk 0 (.constant (.data (.str "inner")))))⟩,
      ⟨.empty, [], some (.client 3 none)⟩,
      ⟨.empty, [], some (.client 2 none)⟩,
      ⟨.empty, [], none⟩]
  bags := []
  tables := []
  functions := 1
  recorded := []
  sent := []

/-- Calls of the five clients, one of them made while another client is being dispatched. -/
theorem dispatch_linkedClients :
    Balanced {3} (start linkedClients {3} (.object (.client 0 none)) []) ∧
    linkedClients.start (.object (.client 0 none)) [] =
      (.done (.ok (.data (.str "inner"))), linkedClients) ∧
    linkedClients.start (.object (.client 2 none)) [] = (.done (.ok .undefined), linkedClients) ∧
    linkedClients.start (.object (.client 4 none)) [] =
      (.done (.ok .undefined), linkedClients) := by
  obtain ⟨balanced, links, -⟩ := dispatch_terminates_and_balances linkedClients
  refine ⟨?_, ?_, ?_, ?_⟩
  · exact ((balanced {3} (.object (.client 0 none)) []).2 _ .refl).2
  · have hfollow : Follow linkedClients 0 [0] 1 := .link rfl (.here 1)
    have hstart := ((links 0 [0] 1 hfollow none []).1 _ rfl nofun).2 nofun
    rw [hstart, World.start, World.callValue, World.call, World.callFunction]
  · have hfollow : Follow linkedClients 2 [2, 3] 2 := .link rfl (.link rfl (.here 2))
    exact (links 2 [2, 3] 2 hfollow none []).2.2 (by decide) (by decide)
  · exact (links 4 [] 4 (.here 4) none []).2.1 rfl

end ApiToolkit.Client.Dispatch
