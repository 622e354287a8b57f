import ApiToolkit.Client.Settle
import ApiToolkit.Proofs.Client.Properties
/-!
# Programs with any number of clients

A program makes clients, bags and tables, applies extensions, reads, writes and calls, in any order.
It refers only to what was made before, and nothing is ever taken away, so whatever a view of a
program refers to is there.

## What is inside

- `World.Grows`: nothing is taken away; one lemma for each thing that can be done.
- `Dynamic.isThere`: whether all is there that an object refers to.
- `Action`, `Program.step`, `Program.run`: programs.
- `Program.Sound`, `Program.sound_run`: what the views of a program refer to is there.
-/

namespace ApiToolkit.Client

namespace World

/-! ## Nothing is taken away -/

/-- All clients, bags and tables are still there. -/
structure Grows (world after : World) : Prop where
  clients : world.clients.length ≤ after.clients.length
  bags : world.bags.length ≤ after.bags.length
  tables : world.tables.length ≤ after.tables.length

theorem Grows.refl (world : World) : Grows world world :=
  ⟨Nat.le_refl _, Nat.le_refl _, Nat.le_refl _⟩

theorem Grows.trans {world between after : World} (first : Grows world between)
    (second : Grows between after) : Grows world after :=
  ⟨Nat.le_trans first.clients second.clients, Nat.le_trans first.bags second.bags,
    Nat.le_trans first.tables second.tables⟩

section Grows

variable (world : World)

theorem grows_newFunction (body : Body) : Grows world (world.newFunction body).2 :=
  ⟨Nat.le_refl _, Nat.le_refl _, Nat.le_refl _⟩

theorem grows_newBag (entries : Entries Function) : Grows world (world.newBag entries).2 :=
  ⟨Nat.le_refl _, by simp [newBag], Nat.le_refl _⟩

theorem grows_newTable (entries : Entries Value) : Grows world (world.newTable entries).2 :=
  ⟨Nat.le_refl _, Nat.le_refl _, by simp [newTable]⟩

theorem grows_newClient (options : RequestOptions) : Grows world (world.newClient options).2 :=
  ⟨by simp [newClient], Nat.le_refl _, Nat.le_refl _⟩

theorem grows_modifyShared (client : Nat) (change : Shared → Shared) :
    Grows world (world.modifyShared client change) :=
  ⟨by simp [modifyShared], Nat.le_refl _, Nat.le_refl _⟩

theorem grows_apply (view : View) (extension : Extension) :
    Grows world (world.apply view extension).2 := by
  cases extension with
  | handler object => exact grows_modifyShared world _ _
  | methods entries => exact (grows_newBag world entries).trans (grows_modifyShared _ _ _)

theorem Written.grows {world after : World} {name : String} (h : Written world name after) :
    Grows world after := by
  cases h with
  | nothing => exact .refl world
  | bag id change => exact ⟨Nat.le_refl _, by simp [modifyBag], Nat.le_refl _⟩
  | table id change => exact ⟨Nat.le_refl _, Nat.le_refl _, by simp [modifyTable]⟩
  | method client f known => exact grows_modifyShared world _ _

theorem grows_setValue (target : Value) (name : String) (value : Value) :
    Grows world (world.setValue target name value).2 := by
  cases target with
  | object object => exact (written_set world object name value).grows
  | undefined | data | function => exact .refl world

/-- Reading makes a function at most. -/
theorem grows_get (object : Dynamic) (name : String) : Grows world (world.get object name).2 := by
  fun_induction World.get world object name with
  | case7 url transport defaults method hmethod f made hmade =>
    rw [← congrArg Prod.snd hmade]
    exact grows_newFunction world _
  | case11 id active f made hunknown hdefaults hwith hmade =>
    rw [← congrArg Prod.snd hmade]
    exact grows_newFunction world _
  | case13 id hunknown hdefaults hwith extension after hfound ih =>
    rw [hfound] at ih
    exact ih
  | case14 id hunknown hdefaults hwith extension hfound ih => exact ih
  | _ => exact .refl world

theorem grows_getValue (target : Value) (name : String) :
    Grows world (world.getValue target name).2 := by
  cases target with
  | object object => exact grows_get world object name
  | undefined | data | function => exact .refl world

end Grows

/-! ### Calls -/

theorem grows_applyArgument (world : World) (client : Nat) (args : List Value) :
    Grows world (world.applyArgument client args).2 := by
  unfold applyArgument
  split
  · exact grows_modifyShared world _ _
  · exact grows_modifyShared world _ _
  · exact .refl world

mutual

theorem grows_call (world : World) (free : List Nat) (object : Dynamic) (args : List Value) :
    Grows world (world.call free object args).2 := by
  cases object with
  | function f =>
    rw [call]
    exact grows_callFunction world free f args
  | client id active =>
    rw [call]
    split
    next => exact .refl world
    next handler hhandler =>
      split
      next hfree =>
        -- The client is free no longer, so the handler is called with a shorter list.
        have hlt : (free.erase id).length < free.length := by
          rw [List.length_erase_of_mem hfree]
          exact Nat.pred_lt (Nat.ne_of_gt (List.length_pos_of_mem hfree))
        exact grows_call world (free.erase id) handler args
      next => exact .refl world
  | table id call isWritable =>
    cases call with
    | none =>
      rw [World.call]
      exact .refl world
    | some f =>
      rw [World.call]
      exact grows_callFunction world free f args
  | bag | inert | route | fetcher | pathCaller =>
    rw [call]
    exact .refl world
termination_by (free.length, sizeOf object)

theorem grows_callValue (world : World) (free : List Nat) (value : Value) (args : List Value) :
    Grows world (world.callValue free value args).2 := by
  cases value with
  | function f =>
    rw [callValue]
    exact grows_callFunction world free f args
  | object object =>
    rw [callValue]
    exact grows_call world free object args
  | undefined | data =>
    rw [callValue]
    exact .refl world
termination_by (free.length, sizeOf value)

theorem grows_callAll (world : World) (free : List Nat) (first : Call) (more : List Call)
    (args : List Value) : Grows world (world.callAll free first more args).2 := by
  have hlt : sizeOf first.target < sizeOf first := by
    cases first
    simp only [Call.target, Call.mk.sizeOf_spec]
    omega
  have hfirst := grows_callValue world free first.target (first.argsFrom args)
  cases more with
  | nil =>
    rw [callAll]
    exact hfirst
  | cons next rest =>
    rw [callAll]
    exact hfirst.trans (grows_callAll _ free next rest args)
termination_by (free.length, 1 + sizeOf first + sizeOf more)

theorem grows_callFunction (world : World) (free : List Nat) (f : Function) (args : List Value) :
    Grows world (world.callFunction free f args).2 := by
  obtain ⟨id, body⟩ := f
  cases body with
  | constant | argument | describe | failure | later | request =>
    rw [callFunction]
    exact .refl world
  | forward first more =>
    rw [callFunction]
    exact grows_callAll world free first more args
  | applyHandler client =>
    rw [callFunction]
    exact grows_applyArgument world client args
termination_by (free.length, sizeOf f)

end

section Waiting

variable [Url.DomainToAscii] (network : Http.Network)

theorem grows_carryOutIfOk (world : World) (transport : Transport)
    (request : Except ApiError (String × RequestOptions)) :
    Grows world (world.carryOutIfOk network transport request).2 := by
  cases request with
  | error e => exact .refl world
  | ok asked =>
    obtain ⟨target, options⟩ := asked
    rw [carryOutIfOk]
    cases transport with
    | network defaults =>
      rw [carryOut]
      rcases Http.send network target (defaults.layer options) with ⟨result, sent⟩
      exact ⟨Nat.le_refl _, Nat.le_refl _, Nat.le_refl _⟩
    | recorder answer => exact ⟨Nat.le_refl _, Nat.le_refl _, Nat.le_refl _⟩
    | failing reason => exact ⟨Nat.le_refl _, Nat.le_refl _, Nat.le_refl _⟩

theorem grows_settle (steps : Nat) (world : World) (reply : Reply) :
    Grows world (world.settle network steps reply).2 := by
  fun_induction World.settle network steps world reply with
  | case1 | case5 => exact .refl _
  | case2 _ world _ _ _ _ _ hdone | case3 _ world _ _ _ _ _ hdone
  | case4 _ world _ _ _ _ _ _ _ hdone =>
    rw [← congrArg Prod.snd hdone]
    exact grows_carryOutIfOk network world _ _
  | case6 world f args n reply after hcall ih =>
    -- The function that was called may give another task.
    have hgrows := grows_callFunction world world.everyClient f args
    rw [hcall] at hgrows
    exact hgrows.trans ih

theorem grows_callAndWait (steps : Nat) (world : World) (target : Value) (args : List Value) :
    Grows world (world.callAndWait network steps target args).2 :=
  (grows_callValue world _ target args).trans (grows_settle network steps _ _)

end Waiting

end World

/-! ## References -/

/-- Whether all is there that an object refers to: the client of a view and what the view remembers,
a bag, or a table. -/
def Dynamic.isThere (world : World) (object : Dynamic) : Bool :=
  match object with
  | .client id none => id < world.clients.length
  | .client id (some extension) => id < world.clients.length && extension.isThere world
  | .bag id => id < world.bags.length
  | .table id _ _ => id < world.tables.length
  | .function _ | .inert | .route .. | .fetcher .. | .pathCaller .. => true
termination_by sizeOf object

/-- Whether all is there that an extension refers to. -/
def Extension.isThere (world : World) : Extension → Bool
  | .handler object => object.isThere world
  | .methods _ => true

theorem Dynamic.isThere_of_grows {world after : World} (h : world.Grows after) {object : Dynamic}
    (hobject : object.isThere world = true) : object.isThere after = true := by
  fun_induction Dynamic.isThere world object with
  | case1 id =>
    rw [isThere]
    simp at hobject ⊢
    exact Nat.lt_of_lt_of_le hobject h.clients
  | case2 id extension ih =>
    rw [isThere]
    simp at hobject ⊢
    exact ⟨Nat.lt_of_lt_of_le hobject.1 h.clients, ih hobject.2⟩
  | case3 id =>
    rw [isThere]
    simp at hobject ⊢
    exact Nat.lt_of_lt_of_le hobject h.bags
  | case4 id =>
    rw [isThere]
    simp at hobject ⊢
    exact Nat.lt_of_lt_of_le hobject h.tables
  | _ => simp [isThere]

/-! ## Programs -/

/-- What a program does next. -/
inductive Action where
  /-- Makes a client. -/
  | create (options : RequestOptions)
  /-- Makes a function. -/
  | makeFunction (body : Body)
  /-- Makes a bag. -/
  | makeBag (entries : Entries Function)
  /-- Makes a table. -/
  | makeTable (entries : Entries Value)
  /-- Applies an extension through a view, which is given by its place among those so far. -/
  | extend (view : Nat) (extension : Extension)
  /-- Reads a property of any value. -/
  | read (target : Value) (name : String)
  /-- Writes a property of any value. -/
  | write (target : Value) (name : String) (value : Value)
  /-- Calls any value, and waits for the result. -/
  | call (target : Value) (args : List Value)

/-- A program at some point. -/
structure Program where
  /-- All state. -/
  world : World
  /-- The views so far. -/
  views : List View

/-- The view that a value is. -/
def Value.view? : Value → Option View
  | .object (.client client active) => some ⟨client, active⟩
  | _ => none

namespace Program

/-- Goes on in a state with a value, which may be a view. -/
def receive (program : Program) (world : World) (value : Value) : Program where
  world := world
  -- A reference to something that was never made cannot be received.
  views := program.views ++ (value.view?.filter fun view => view.toDynamic.isThere world).toList

/-- One action.  Nothing happens if there is no such view, or if the extension refers to something
that is not there. -/
def step [Url.DomainToAscii] (network : Http.Network) (steps : Nat) (program : Program)
    (action : Action) : Program :=
  match action with
  | .create options =>
    let (view, world) := program.world.newClient options
    ⟨world, program.views ++ [view]⟩
  | .makeFunction body => { program with world := (program.world.newFunction body).2 }
  | .makeBag entries => { program with world := (program.world.newBag entries).2 }
  | .makeTable entries => { program with world := (program.world.newTable entries).2 }
  | .extend index extension =>
    match program.views[index]? with
    | none => program
    | some view =>
      if extension.isThere program.world then
        let (made, world) := program.world.apply view extension
        ⟨world, program.views ++ [made]⟩
      else program
  | .read target name =>
    let (value, world) := program.world.getValue target name
    program.receive world value
  | .write target name value =>
    { program with world := (program.world.setValue target name value).2 }
  | .call target args =>
    match program.world.callAndWait network steps target args with
    | (some (.ok value), world) => program.receive world value
    | (_, world) => { program with world := world }

/-- Actions one after the other, from the beginning. -/
def run [Url.DomainToAscii] (network : Http.Network) (steps : Nat) (actions : List Action) :
    Program :=
  actions.foldl (step network steps) ⟨.empty, []⟩

/-- What the views of a program refer to is there. -/
def Sound (program : Program) : Prop :=
  ∀ view ∈ program.views, view.toDynamic.isThere program.world = true

variable {program : Program} {network : Http.Network} {steps : Nat}

theorem Sound.of_grows (h : program.Sound) {world : World} (hgrows : program.world.Grows world) :
    Sound { program with world := world } :=
  fun view hview => Dynamic.isThere_of_grows hgrows (h view hview)

theorem Sound.receive (h : program.Sound) {world : World} (hgrows : program.world.Grows world)
    (value : Value) : (program.receive world value).Sound := by
  intro view hview
  rcases List.mem_append.mp hview with hold | hnew
  · exact h.of_grows hgrows view hold
  · exact (Option.filter_eq_some_iff.mp (Option.mem_toList.mp hnew)).2

theorem Sound.concat (h : program.Sound) {world : World} (hgrows : program.world.Grows world)
    {made : View} (hmade : made.toDynamic.isThere world = true) :
    Sound ⟨world, program.views ++ [made]⟩ := by
  intro view hview
  rcases List.mem_append.mp hview with hold | hnew
  · exact h.of_grows hgrows view hold
  · rw [List.mem_singleton.mp hnew]
    exact hmade

theorem isThere_view (world : World) (client : Nat) (active : Option Dynamic) :
    (View.toDynamic ⟨client, active⟩).isThere world = true ↔
      client < world.clients.length ∧ ∀ extension ∈ active, extension.isThere world = true := by
  cases active <;> simp [View.toDynamic, Dynamic.isThere]

/-- A view that an extension makes refers to the same client, and to the extension. -/
theorem isThere_apply {world : World} {view : View} {extension : Extension}
    (hview : view.toDynamic.isThere world = true) (h : extension.isThere world = true) :
    (world.apply view extension).1.toDynamic.isThere (world.apply view extension).2 = true := by
  have hgrows := world.grows_apply view extension
  have hclient := (isThere_view world view.client view.active).mp hview
  cases extension with
  | handler object =>
    refine (isThere_view _ _ _).mpr ⟨Nat.lt_of_lt_of_le hclient.1 hgrows.clients, ?_⟩
    rintro other ⟨rfl⟩
    exact Dynamic.isThere_of_grows hgrows h
  | methods entries =>
    refine (isThere_view _ _ _).mpr ⟨Nat.lt_of_lt_of_le hclient.1 hgrows.clients, ?_⟩
    rintro other ⟨rfl⟩
    simp [Dynamic.isThere, World.apply, World.addMethods, World.newBag, World.modifyShared]

/-- Every action leaves a program whose views refer to what is there. -/
theorem sound_step [Url.DomainToAscii] (h : program.Sound) (action : Action) :
    (program.step network steps action).Sound := by
  cases action with
  | create options =>
    refine h.concat (program.world.grows_newClient options) ((isThere_view _ _ _).mpr ⟨?_, nofun⟩)
    simp [World.newClient]
  | makeFunction body => exact h.of_grows (program.world.grows_newFunction body)
  | makeBag entries => exact h.of_grows (program.world.grows_newBag entries)
  | makeTable entries => exact h.of_grows (program.world.grows_newTable entries)
  | extend index extension =>
    rw [step]
    split
    next => exact h
    next view hview =>
      split
      next hthere =>
        exact h.concat (program.world.grows_apply view extension)
          (isThere_apply (h view (List.mem_of_getElem? hview)) hthere)
      next => exact h
  | read target name => exact h.receive (program.world.grows_getValue target name) _
  | write target name value => exact h.of_grows (program.world.grows_setValue target name value)
  | call target args =>
    have hgrows := World.grows_callAndWait network steps program.world target args
    rw [step]
    split
    next value world hcall =>
      rw [hcall] at hgrows
      exact h.receive hgrows value
    next result world hother hcall =>
      rw [hcall] at hgrows
      exact h.of_grows hgrows

theorem sound_run [Url.DomainToAscii] (actions : List Action) :
    (run network steps actions).Sound := by
  have hfold (program : Program) (h : program.Sound) :
      (actions.foldl (step network steps) program).Sound := by
    induction actions generalizing program with
    | nil => exact h
    | cons action rest ih => exact ih _ (sound_step h action)
  exact hfold _ (List.forall_mem_nil _)

end Program

end ApiToolkit.Client
