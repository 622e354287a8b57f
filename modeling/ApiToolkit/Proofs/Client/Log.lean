import ApiToolkit.Client.Property
import ApiToolkit.Proofs.Entries
/-!
# Logs of one client

A log lists what was done to a client.  It says what the state of the client is.

## What is inside

- `Event`: what is logged.
- `registeredNames`, `lastAssigned`, `lastHandler`: what a log says.
- `Shared.Records`: the state that a log describes, with one lemma for each kind of event.
-/

namespace ApiToolkit.Client

/-! ## Logs -/

/-- What was done in a session. -/
inductive Event where
  /-- A handler was applied. -/
  | handler (object : Dynamic)
  /-- Functions were added, and put together into a bag. -/
  | methods (entries : Entries Function) (bag : Nat)
  /-- A property was written, and the value was accepted. -/
  | accepted (name : String) (value : Value)

namespace Event

/-- The names that are registered. -/
def registered : Event → List String
  | .methods entries _ => entries.keys
  | .handler _ | .accepted .. => []

/-- The values that are assigned to names. -/
def assigned : Event → Entries Value
  | .methods entries _ => entries.map fun entry => (entry.1, .function entry.2)
  | .accepted name value => [(name, value)]
  | .handler _ => []

def handler? : Event → Option Dynamic
  | .handler object => some object
  | .methods .. | .accepted .. => none

def bag? : Event → Option Nat
  | .methods _ bag => some bag
  | .handler _ | .accepted .. => none

/-- The view that is made: it remembers the handler, or the bag. -/
def view? (client : Nat) : Event → Option View
  | .handler object => some ⟨client, some object⟩
  | .methods _ bag => some ⟨client, some (.bag bag)⟩
  | .accepted .. => none

end Event

/-- The names that were registered, in order. -/
def registeredNames (log : List Event) : List String := (log.flatMap Event.registered).eraseDups

/-- The value that was assigned to a name last. -/
def lastAssigned (log : List Event) (name : String) : Option Value :=
  Entries.find? (log.flatMap Event.assigned).reverse name

/-- The handler that was applied last. -/
def lastHandler (log : List Event) : Option Dynamic := log.reverse.findSome? Event.handler?

/-! ## What an event adds to a log -/

theorem registeredNames_concat (log : List Event) (event : Event) :
    registeredNames (log ++ [event]) = (registeredNames log ++ event.registered).eraseDups := by
  rw [registeredNames, registeredNames, eraseDups_eraseDups_append, List.flatMap_append,
    List.flatMap_singleton]

theorem registeredNames_concat_of_nil (log : List Event) {event : Event}
    (h : event.registered = []) : registeredNames (log ++ [event]) = registeredNames log := by
  rw [registeredNames_concat, h, List.append_nil]
  exact eraseDups_of_nodup (nodup_eraseDups _)

theorem lastAssigned_concat (log : List Event) (event : Event) (name : String) :
    lastAssigned (log ++ [event]) name =
      (Entries.find? event.assigned.reverse name).or (lastAssigned log name) := by
  rw [lastAssigned, lastAssigned, List.flatMap_append, List.flatMap_singleton, List.reverse_append,
    Entries.find?_append]

theorem lastHandler_concat (log : List Event) (event : Event) :
    lastHandler (log ++ [event]) = event.handler?.or (lastHandler log) := by
  rw [lastHandler, lastHandler, List.reverse_append, List.findSome?_append]
  simp

theorem isSome_lastHandler_iff {log : List Event} :
    (lastHandler log).isSome = true ↔ ∃ object, Event.handler object ∈ log := by
  rw [lastHandler, List.findSome?_isSome_iff]
  constructor
  · rintro ⟨event, hevent, hsome⟩
    cases event with
    | handler object => exact ⟨object, List.mem_reverse.mp hevent⟩
    | methods entries bag => cases hsome
    | accepted name value => cases hsome
  · rintro ⟨object, hobject⟩
    exact ⟨.handler object, List.mem_reverse.mpr hobject, rfl⟩

/-- The state of a client is what the log says. -/
structure Shared.Records (options : RequestOptions) (log : List Event) (shared : Shared) :
    Prop where
  /-- The table has the registered names, in order. -/
  keys : shared.methods.keys = registeredNames log
  /-- It holds what was assigned last. -/
  assigned : ∀ name ∈ registeredNames log,
    (shared.methods.find? name).map Value.function = lastAssigned log name
  /-- The handler is the one that was applied last. -/
  handler : shared.handler = lastHandler log
  /-- The options are those of the client from the beginning. -/
  defaults : shared.defaults = options

section Records

variable {options : RequestOptions} {log : List Event} {shared : Shared}

theorem Shared.Records.handled (h : shared.Records options log) (object : Dynamic) :
    Shared.Records options (log ++ [.handler object]) { shared with handler := some object } := by
  have hnames := registeredNames_concat_of_nil log
    (show (Event.handler object).registered = [] from rfl)
  refine ⟨?_, ?_, ?_, h.defaults⟩
  · rw [hnames]
    exact h.keys
  · intro name hname
    rw [hnames] at hname
    rw [lastAssigned_concat]
    exact h.assigned name hname
  · rw [lastHandler_concat]
    rfl

theorem Shared.Records.added (h : shared.Records options log) (entries : Entries Function)
    (bag : Nat) :
    Shared.Records options (log ++ [.methods entries bag])
      { shared with methods := shared.methods.overlay entries.collapse } := by
  have hnodup : shared.methods.keys.Nodup := by
    rw [h.keys]
    exact nodup_eraseDups _
  refine ⟨?_, ?_, ?_, h.defaults⟩
  · rw [registeredNames_concat, Entries.keys_overlay hnodup, Entries.keys_collapse, h.keys,
      eraseDups_append_eraseDups]
    rfl
  · intro name hname
    -- A repeated name has its last function in the table, and so it has in the log.
    have hfind : Entries.find? entries.collapse.reverse name =
        Entries.find? entries.reverse name := by
      rw [Entries.find?_reverse (Entries.nodup_keys_collapse entries), Entries.find?_collapse]
    rw [lastAssigned_concat, Entries.find?_overlay, hfind, Event.assigned, ← List.map_reverse,
      Entries.find?_map_values]
    cases hentry : Entries.find? entries.reverse name with
    | some f => rfl
    | none =>
      -- The name is not in the extension, so it was registered before.
      refine h.assigned name ?_
      rw [registeredNames_concat, List.mem_eraseDups, List.mem_append] at hname
      refine hname.resolve_right fun hkey => ?_
      rw [Entries.find?_eq_none_iff, Entries.keys, List.map_reverse, List.mem_reverse] at hentry
      exact hentry hkey
  · rw [lastHandler_concat]
    exact h.handler

theorem Shared.Records.replaced (h : shared.Records options log) {name : String}
    (hname : name ∈ registeredNames log) (f : Function) :
    Shared.Records options (log ++ [.accepted name (.function f)])
      { shared with methods := shared.methods.put name f } := by
  have hnames := registeredNames_concat_of_nil log
    (show (Event.accepted name (.function f)).registered = [] from rfl)
  refine ⟨?_, ?_, ?_, h.defaults⟩
  · rw [hnames, Entries.keys_put, h.keys, if_pos hname]
  · intro other hother
    rw [hnames] at hother
    rw [lastAssigned_concat, Entries.find?_put, ← h.assigned other hother]
    -- The written name has the new function on both sides, and any other name the old one.
    by_cases heq : other = name
    · simp [Event.assigned, Entries.find?_cons, heq]
    · simp [Event.assigned, Entries.find?_cons, heq, Ne.symm heq]
  · rw [lastHandler_concat]
    exact h.handler

theorem Shared.Records.elsewhere (h : shared.Records options log) {name : String}
    (hname : name ∉ registeredNames log) (value : Value) :
    Shared.Records options (log ++ [.accepted name value]) shared := by
  have hnames := registeredNames_concat_of_nil log
    (show (Event.accepted name value).registered = [] from rfl)
  refine ⟨?_, ?_, ?_, h.defaults⟩
  · rw [hnames]
    exact h.keys
  · intro other hother
    rw [hnames] at hother
    -- The log has a new value for a name that is not in the table.
    have hne : name ≠ other := fun heq => hname (heq ▸ hother)
    rw [lastAssigned_concat, h.assigned other hother]
    simp [Event.assigned, Entries.find?_cons, hne]
  · rw [lastHandler_concat]
    exact h.handler

end Records

end ApiToolkit.Client
