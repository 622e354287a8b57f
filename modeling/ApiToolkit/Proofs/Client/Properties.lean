import ApiToolkit.Client.Call
import ApiToolkit.Client.Property
import ApiToolkit.Proofs.Entries
/-!
# Properties of clients

## What is inside

- `World.Written`, `World.written_set`: all that writing a property of any object may change.
- `World.getView_known`, `World.setView_known`: the names that the table of a client has.
- `World.getView_defaults`: the property that shows the options.
- `World.getView_with`, `World.start_applyHandler`: the property that applies handlers.
-/

namespace ApiToolkit.Client

/-- The handler that arguments ask for. -/
def handlerArgument? : List Value → Option Dynamic
  | .function f :: _ => some (.function f)
  | .object object :: _ => some object
  | _ => none

namespace World

/-! ## Writing -/

/-- Replaces a function in the table of a client. -/
def replaceMethod (world : World) (client : Nat) (name : String) (f : Function) : World :=
  world.modifyShared client fun shared => { shared with methods := shared.methods.put name f }

/-- What writing a property of any object may change. -/
inductive Written (world : World) (name : String) : World → Prop where
  /-- Nothing. -/
  | nothing : Written world name world
  /-- A bag. -/
  | bag (id : Nat) (change : Entries Function → Entries Function) :
      Written world name (world.modifyBag id change)
  /-- A table of values. -/
  | table (id : Nat) (change : Entries Value → Entries Value) :
      Written world name (world.modifyTable id change)
  /-- The table of a client that has the name. -/
  | method (client : Nat) (f : Function) (known : (world.methods client).has name = true) :
      Written world name (world.replaceMethod client name f)

theorem written_set (world : World) (object : Dynamic) (name : String) (value : Value) :
    Written world name (world.set object name value).2 := by
  fun_induction World.set world object name value with
  | case6 id f => exact .bag id _
  | case8 id => exact .table id _
  | case10 id _ hknown f => exact .method id f hknown
  | case14 _ _ _ extension ih => exact ih
  | _ => exact .nothing

variable {world after : World} {name : String}

/-- The state of a client that does not have the name stays as it is. -/
theorem Written.getElem?_clients (h : Written world name after) {client : Nat}
    (hunknown : (world.methods client).has name = false) :
    after.clients[client]? = world.clients[client]? := by
  cases h with
  | nothing => rfl
  | bag id change => rfl
  | table id change => rfl
  | method other f known =>
    -- The client that is changed has the name, so it is another one.
    have hne : other ≠ client := by
      rintro rfl
      rw [hunknown] at known
      cases known
    simp [replaceMethod, modifyShared, hne]

theorem Written.length_bags (h : Written world name after) :
    after.bags.length = world.bags.length := by
  cases h with
  | nothing => rfl
  | bag id change => exact List.length_modify ..
  | table id change => rfl
  | method other f known => rfl

theorem methods_eq {client : Nat} {shared : Shared}
    (h : world.clients[client]? = some shared) : world.methods client = shared.methods := by
  rw [methods, h]
  rfl

/-- Through a view, a function of the table hides everything else of its name. -/
theorem getView_known {view : View} {f : Function}
    (hfind : (world.methods view.client).find? name = some f) :
    world.getView view name = (.function f, world) := by
  unfold getView get
  simp only [View.toDynamic, hfind]
  rfl

/-- Through a view, a known name takes functions only, and they go into the table. -/
theorem setView_known {view : View} (hknown : (world.methods view.client).has name = true)
    (value : Value) :
    world.setView view name value =
      match value with
      | .function f => (true, world.replaceMethod view.client name f)
      | _ => (false, world) := by
  unfold setView set
  simp only [View.toDynamic, hknown, if_true]
  cases value <;> rfl

/-- Unless there is a function of this name, the property shows the options of the client. -/
theorem getView_defaults {view : View}
    (hhidden : (world.methods view.client).has defaultsField = false) :
    world.getView view defaultsField = (.data (world.defaults view.client).toJson, world) := by
  have hnone := Entries.has_eq_false_iff.mp hhidden
  unfold getView get
  simp only [View.toDynamic, hnone, if_true]
  rfl

/-- The property that applies handlers is a new function. -/
theorem getView_with {view : View} (hhidden : (world.methods view.client).has withField = false) :
    world.getView view withField =
      (.function (.mk world.functions (.applyHandler view.client)),
        { world with functions := world.functions + 1 }) := by
  have hnone := Entries.has_eq_false_iff.mp hhidden
  have hne : withField ≠ defaultsField := by decide
  unfold getView get
  simp only [View.toDynamic, hnone, if_neg hne, if_true]
  rfl

/-- The functions that apply handlers take a function or an object. -/
theorem start_applyHandler (world : World) (id client : Nat) (args : List Value) :
    world.start (.function (.mk id (.applyHandler client))) args =
      match handlerArgument? args with
      | some object =>
        (.done (.ok (.object (.client client (some object)))), (world.setHandler client object).2)
      | none => (.done (.error (.invalidArgument 0 "extension")), world) := by
  rw [start, callValue, callFunction]
  rcases args with _ | ⟨first, rest⟩
  · rfl
  · cases first <;> rfl

end World

end ApiToolkit.Client
