import ApiToolkit.Proofs.Entries
import ApiToolkit.Service.Registry
/-!
# Registering services one after another

A registry is filled by calls, some of which fail.  What it holds afterwards is said by the calls
that succeeded.

## What is inside

- `Registry.register_eq_ok_iff`, `Registry.register_eq_error_iff`,
  `Registry.register_eq_error_cases`: what one call does.
- `Registry.Run`: a registry together with the calls that succeeded.
- `Registry.Run.Consistent`: what every run keeps, with `Registry.Run.consistent_step`.
- `Registry.Run.registry_of_calls`: the registry after any calls.
- `Registry.Run.Consistent.withSchemas_step`: what it is to register a service with a schema again.
-/

namespace ApiToolkit.Registry

/-! ## One call -/

section Register

variable {registry after : Registry} {id identifier : String} {options : ServiceOptions}

/-- A name is free for an id if no entry of another id holds it. -/
theorem holder?_eq_none_iff :
    registry.holder? id identifier = none ↔
      ∀ entry ∈ registry.registrations, entry.2.identifier = identifier → entry.1 = id := by
  rw [holder?, Option.map_eq_none_iff, List.find?_eq_none]
  refine forall₂_congr fun entry _ => ?_
  by_cases hid : entry.1 = id
  · simp [hid]
  · simp [hid]

/-- A call succeeds if the id has a name and that name is free for it. -/
theorem register_eq_ok_iff :
    registry.register id options = .ok after ↔
      ∃ identifier, Naming.serviceIdentifier id = .ok identifier ∧
        registry.holder? id identifier = none ∧
        after = ⟨registry.registrations.put id ⟨identifier, options⟩⟩ := by
  unfold register
  cases hname : Naming.serviceIdentifier id with
  | error fault => simp
  | ok identifier =>
    cases hholder : registry.holder? id identifier with
    | some existing => simp [hholder]
    | none => simp [hholder, eq_comm]

/-- The error of a call tells why the id has no name, or who has the name. -/
theorem register_eq_error_cases {error : GeneratorError} :
    registry.register id options = .error error ↔
      (∃ fault, Naming.serviceIdentifier id = .error fault ∧ error = .invalidServiceId id fault) ∨
        ∃ identifier existing, Naming.serviceIdentifier id = .ok identifier ∧
          registry.holder? id identifier = some existing ∧
          error = .namingCollision id existing identifier := by
  unfold register
  cases hname : Naming.serviceIdentifier id with
  | error fault => simp [eq_comm]
  | ok identifier =>
    cases hholder : registry.holder? id identifier with
    | some existing => simp [hholder, eq_comm]
    | none => simp [hholder]

/-- A call fails if the id has no name, or if the name belongs to another id. -/
theorem register_eq_error_iff :
    (∃ error, registry.register id options = .error error) ↔
      (∃ fault, Naming.serviceIdentifier id = .error fault) ∨
        ∃ entry ∈ registry.registrations,
          entry.1 ≠ id ∧ Naming.serviceIdentifier id = .ok entry.2.identifier := by
  unfold register
  cases hname : Naming.serviceIdentifier id with
  | error fault => simp
  | ok identifier =>
    cases hholder : registry.holder? id identifier with
    | none =>
      -- The name is free, so whoever holds it is this very id.
      have hfree := holder?_eq_none_iff.mp hholder
      simp only [hholder, reduceCtorEq, exists_false, false_or, false_iff]
      rintro ⟨entry, hentry, hid, hok⟩
      rw [Except.ok.injEq] at hok
      exact hid (hfree entry hentry hok.symm)
    | some existing =>
      have htaken : ¬ registry.holder? id identifier = none := by simp [hholder]
      rw [holder?_eq_none_iff] at htaken
      push Not at htaken
      obtain ⟨entry, hentry, hheld, hid⟩ := htaken
      simp only [hholder, reduceCtorEq, exists_false, false_or]
      exact iff_of_true ⟨_, rfl⟩ ⟨entry, hentry, hid, by rw [hheld]⟩

end Register

/-! ## Runs -/

/-- A registry, and the calls so far that succeeded. -/
structure Run where
  registry : Registry
  accepted : Entries ServiceOptions

namespace Run

/-- One more call.  A call that fails leaves everything as it is. -/
def step (run : Run) (call : String × ServiceOptions) : Run :=
  match run.registry.register call.1 call.2 with
  | .ok after => ⟨after, run.accepted ++ [call]⟩
  | .error _ => run

/-- All calls, beginning with an empty registry. -/
def ofCalls (calls : List (String × ServiceOptions)) : Run := calls.foldl step ⟨empty, []⟩

theorem step_of_ok {run : Run} (call : String × ServiceOptions) {after : Registry}
    (h : run.registry.register call.1 call.2 = .ok after) :
    run.step call = ⟨after, run.accepted ++ [call]⟩ := by
  rw [step, h]

theorem step_of_error {run : Run} (call : String × ServiceOptions) {error : GeneratorError}
    (h : run.registry.register call.1 call.2 = .error error) : run.step call = run := by
  rw [step, h]

/-- The registry is what the accepted calls say. -/
structure Consistent (run : Run) : Prop where
  /-- The ids stand in the order in which they were accepted first. -/
  ids : run.registry.registrations.keys = run.accepted.keys.eraseDups
  /-- Each id has the options that were accepted last. -/
  options : ∀ id, (run.registry.registrations.find? id).map (·.options) =
    Entries.find? run.accepted.reverse id
  /-- The name of an entry is made from its id. -/
  identifier : ∀ entry ∈ run.registry.registrations,
    Naming.serviceIdentifier entry.1 = .ok entry.2.identifier
  /-- Entries with one name have one id. -/
  unique : ∀ first ∈ run.registry.registrations, ∀ second ∈ run.registry.registrations,
    first.2.identifier = second.2.identifier → first.1 = second.1

section Consistent

variable {run : Run}

theorem Consistent.nodup_keys (h : run.Consistent) : run.registry.registrations.keys.Nodup := by
  rw [h.ids]
  exact nodup_eraseDups _

theorem consistent_empty : Consistent ⟨empty, []⟩ where
  ids := rfl
  options _ := rfl
  identifier := List.forall_mem_nil _
  unique := List.forall_mem_nil _

/-- **Step**: every call keeps the registry and the accepted calls together. -/
theorem consistent_step (h : run.Consistent) (call : String × ServiceOptions) :
    (run.step call).Consistent := by
  cases hregister : run.registry.register call.1 call.2 with
  | error error =>
    rw [step_of_error call hregister]
    exact h
  | ok after =>
    rw [step_of_ok call hregister]
    obtain ⟨id, options⟩ := call
    obtain ⟨identifier, hname, hholder, rfl⟩ := register_eq_ok_iff.mp hregister
    have hfree := holder?_eq_none_iff.mp hholder
    refine ⟨?_, ?_, ?_, ?_⟩
    · have hkeys : Entries.keys (run.accepted ++ [(id, options)]) = run.accepted.keys ++ [id] :=
        List.map_append
      rw [hkeys, eraseDups_concat, Entries.keys_put, h.ids]
      simp only [List.mem_eraseDups]
    · intro other
      rw [List.reverse_append, List.reverse_singleton, List.singleton_append, Entries.find?_cons,
        Entries.find?_put, ← h.options other]
      by_cases hother : other = id
      · simp [hother]
      · simp [hother, Ne.symm hother]
    · intro entry hentry
      rcases Entries.mem_of_mem_put hentry with rfl | hold
      · exact hname
      · exact h.identifier entry hold
    · -- Against an older entry, the new one has a name of its own, unless the ids agree.
      intro first hfirst second hsecond heq
      rcases Entries.mem_of_mem_put hfirst with rfl | hfirst <;>
        rcases Entries.mem_of_mem_put hsecond with rfl | hsecond
      · rfl
      · exact (hfree second hsecond heq.symm).symm
      · exact hfree first hfirst heq
      · exact h.unique first hfirst second hsecond heq

/-- **Run**: the registry is what the accepted calls say, whatever the calls were. -/
theorem consistent_foldl (h : run.Consistent) (calls : List (String × ServiceOptions)) :
    (calls.foldl step run).Consistent := by
  induction calls generalizing run with
  | nil => exact h
  | cons call rest ih => exact ih (consistent_step h call)

theorem consistent_ofCalls (calls : List (String × ServiceOptions)) : (ofCalls calls).Consistent :=
  consistent_foldl consistent_empty calls

/-! ## The services of a run -/

theorem map_id_services (registry : Registry) :
    registry.services.map (·.id) = registry.registrations.keys := by
  unfold services Entries.keys
  rw [List.map_map]
  rfl

theorem mem_services_iff {registry : Registry} {service : Service} :
    service ∈ registry.services ↔
      (service.id, ⟨service.identifier, service.options⟩) ∈ registry.registrations := by
  unfold services
  rw [List.mem_map]
  constructor
  · rintro ⟨entry, hentry, rfl⟩
    exact hentry
  · intro hentry
    exact ⟨_, hentry, rfl⟩

theorem Consistent.nodup_ids (h : run.Consistent) : (run.registry.services.map (·.id)).Nodup := by
  rw [map_id_services]
  exact h.nodup_keys

/-- No two services have one name. -/
theorem Consistent.nodup_identifiers (h : run.Consistent) :
    (run.registry.services.map (·.identifier)).Nodup := by
  refine List.Nodup.map_on ?_ h.nodup_ids.of_map
  intro first hfirst second hsecond heq
  -- The names agree, so the ids do, and an id has one service.
  have hid : first.id = second.id :=
    h.unique _ (mem_services_iff.mp hfirst) _ (mem_services_iff.mp hsecond) heq
  exact List.inj_on_of_nodup_map h.nodup_ids hfirst hsecond hid

theorem Consistent.get?_eq_some_iff (h : run.Consistent) {id : String} {service : Service} :
    run.registry.get? id = some service ↔ service ∈ run.registry.services ∧ service.id = id := by
  unfold get?
  rw [Option.map_eq_some_iff, mem_services_iff]
  constructor
  · rintro ⟨registration, hfind, rfl⟩
    exact ⟨Entries.mem_of_find? hfind, rfl⟩
  · rintro ⟨hmem, rfl⟩
    exact ⟨_, Entries.find?_of_mem h.nodup_keys hmem, rfl⟩

theorem Consistent.lastAccepted (h : run.Consistent) {service : Service}
    (hservice : service ∈ run.registry.services) :
    Entries.find? run.accepted.reverse service.id = some service.options := by
  have hfind := Entries.find?_of_mem h.nodup_keys (mem_services_iff.mp hservice)
  rw [← h.options, hfind]
  rfl

/-- Registering a known id again changes its options and nothing else. -/
theorem Consistent.services_register_known (h : run.Consistent) {id : String}
    {options : ServiceOptions} {after : Registry}
    (hregister : run.registry.register id options = .ok after)
    (hknown : id ∈ run.registry.services.map (·.id)) :
    after.services = run.registry.services.map fun service =>
      if service.id = id then { service with options := options } else service := by
  obtain ⟨identifier, hname, -, rfl⟩ := register_eq_ok_iff.mp hregister
  rw [map_id_services] at hknown
  unfold services
  rw [Entries.put_of_mem h.nodup_keys hknown, List.map_map, List.map_map]
  refine List.map_congr_left fun entry hentry => ?_
  by_cases hid : entry.1 = id
  · -- The name is made from the id, so it is the one that was there.
    have hsame := h.identifier entry hentry
    rw [hid, hname, Except.ok.injEq] at hsame
    simp [hid, hsame]
  · simp [hid]

/-- A known id can be registered again. -/
theorem Consistent.exists_register_known (h : run.Consistent) {id : String}
    (hknown : id ∈ run.registry.services.map (·.id)) (options : ServiceOptions) :
    ∃ after, run.registry.register id options = .ok after := by
  obtain ⟨service, hservice, rfl⟩ := List.mem_map.mp hknown
  have hentry := mem_services_iff.mp hservice
  have hfree : run.registry.holder? service.id service.identifier = none :=
    holder?_eq_none_iff.mpr fun entry hmem heq => h.unique entry hmem _ hentry heq
  exact ⟨_, register_eq_ok_iff.mpr ⟨service.identifier, h.identifier _ hentry, hfree, rfl⟩⟩

theorem Consistent.nodup_withSchemas (h : run.Consistent) :
    (run.registry.withSchemas.map (·.id)).Nodup :=
  h.nodup_ids.sublist (List.filter_sublist.map _)

/-- What a service is after its id is registered with other options. -/
def reconfigured (id : String) (options : ServiceOptions) (service : Service) : Service :=
  if service.id = id then { service with options := options } else service

theorem reconfigured_of_ne {id : String} {options : ServiceOptions} {service : Service}
    (h : service.id ≠ id) : reconfigured id options service = service := if_neg h

theorem reconfigured_self (service : Service) (options : ServiceOptions) :
    reconfigured service.id options service = { service with options := options } := if_pos rfl

/-- A service that keeps having a schema stays where it is among those that have one. -/
theorem Consistent.withSchemas_step_eq_map (h : run.Consistent) {service : Service}
    (hservice : service ∈ run.registry.withSchemas) {options : ServiceOptions}
    (hschema : options.schema.isSome = true) :
    (run.step (service.id, options)).registry.withSchemas =
      run.registry.withSchemas.map (reconfigured service.id options) := by
  obtain ⟨hmem, hhas⟩ := List.mem_filter.mp hservice
  have hknown : service.id ∈ run.registry.services.map (·.id) := List.mem_map_of_mem hmem
  obtain ⟨after, hregister⟩ := h.exists_register_known hknown options
  have hservices : after.services = run.registry.services.map (reconfigured service.id options) :=
    h.services_register_known hregister hknown
  have hkept : ∀ other ∈ run.registry.services,
      ((fun s : Service => s.options.schema.isSome) ∘ reconfigured service.id options) other =
        other.options.schema.isSome := by
    intro other hother
    by_cases hid : other.id = service.id
    · have hsame : other = service := List.inj_on_of_nodup_map h.nodup_ids hother hmem hid
      rw [hsame, Function.comp_apply, reconfigured_self, hschema, hhas]
    · rw [Function.comp_apply, reconfigured_of_ne hid]
  rw [step_of_ok (service.id, options) hregister]
  unfold withSchemas
  rw [hservices, List.filter_map, List.filter_congr hkept]

/-- A service with a schema that is registered again with one changes its options in place. -/
theorem Consistent.withSchemas_step (h : run.Consistent) {before after : List Service}
    {service : Service} (hservices : run.registry.withSchemas = before ++ service :: after)
    {options : ServiceOptions} (hschema : options.schema.isSome = true) :
    (run.step (service.id, options)).registry.withSchemas =
      before ++ { service with options := options } :: after := by
  have hnodup := h.nodup_withSchemas
  rw [hservices, List.map_append, List.map_cons, List.nodup_middle, List.nodup_cons,
    ← List.map_append] at hnodup
  have hsame : ∀ other ∈ before ++ after, reconfigured service.id options other = other := by
    intro other hother
    refine reconfigured_of_ne fun hid => hnodup.1 ?_
    rw [← hid]
    exact List.mem_map_of_mem hother
  obtain ⟨hbefore, hafter⟩ := List.forall_mem_append.mp hsame
  rw [h.withSchemas_step_eq_map (by simp [hservices]) hschema, hservices, List.map_append,
    List.map_cons, reconfigured_self, List.map_congr_left hbefore, List.map_congr_left hafter,
    List.map_id', List.map_id']

end Consistent

/-! ## The registry after any calls -/

/-- **Registry**: after any calls, successful or not, ids and names are distinct, the ids stand in
the order of their first success, and each has the options of its last one.  A call fails exactly if
its id has no name or the name belongs to another id, and then nothing has changed. -/
theorem registry_of_calls (calls : List (String × ServiceOptions)) :
    let run := ofCalls calls
    let services := run.registry.services
    (services.map (·.id)).Nodup ∧
    (∀ service ∈ services, Naming.serviceIdentifier service.id = .ok service.identifier) ∧
    (services.map (·.identifier)).Nodup ∧
    services.map (·.id) = run.accepted.keys.eraseDups ∧
    (∀ service ∈ services,
      Entries.find? run.accepted.reverse service.id = some service.options) ∧
    (∀ id service,
      run.registry.get? id = some service ↔ service ∈ services ∧ service.id = id) ∧
    (∀ id options after, run.registry.register id options = .ok after →
      id ∈ services.map (·.id) →
      after.services = services.map fun service =>
        if service.id = id then { service with options := options } else service) ∧
    (∀ id options, (∃ error, run.registry.register id options = .error error) ↔
      (∃ fault, Naming.serviceIdentifier id = .error fault) ∨
        ∃ service ∈ services,
          service.id ≠ id ∧ Naming.serviceIdentifier id = .ok service.identifier) ∧
    (∀ id options, (∃ error, run.registry.register id options = .error error) →
      (run.step (id, options)).registry = run.registry) := by
  intro run services
  have h : run.Consistent := consistent_ofCalls calls
  have hids : services.map (·.id) = run.registry.registrations.keys := map_id_services _
  refine ⟨?_, ?_, h.nodup_identifiers, ?_, ?_, ?_, ?_, ?_, ?_⟩
  · exact h.nodup_ids
  · intro service hservice
    exact h.identifier _ (mem_services_iff.mp hservice)
  · rw [hids, h.ids]
  · intro service hservice
    exact h.lastAccepted hservice
  · intro id service
    exact h.get?_eq_some_iff
  · intro id options after hregister hknown
    exact h.services_register_known hregister hknown
  · intro id options
    rw [register_eq_error_iff]
    refine or_congr_right ⟨?_, ?_⟩
    · rintro ⟨entry, hentry, hother⟩
      exact ⟨⟨entry.1, entry.2.identifier, entry.2.options⟩, mem_services_iff.mpr hentry, hother⟩
    · rintro ⟨service, hservice, hother⟩
      exact ⟨_, mem_services_iff.mp hservice, hother⟩
  · rintro id options ⟨error, herror⟩
    rw [step_of_error (id, options) herror]

/-- Of these calls the second one collides, the fourth one has no name, and the last one replaces
the options of the first one. -/
def sampleCalls : List (String × ServiceOptions) :=
  [("petStore", ⟨none, none, none⟩), ("pet-store", ⟨none, none, none⟩), ("zoo", ⟨none, none, none⟩),
    ("3d", ⟨none, none, none⟩), ("petStore", ⟨some "https://pets.example", none, none⟩)]

theorem registry_of_sampleCalls :
    let run := ofCalls sampleCalls
    run.registry.services.map (·.id) = ["petStore", "zoo"] ∧
    (∀ service, run.registry.get? "petStore" = some service →
      service.options.url = some "https://pets.example") ∧
    (∃ error, run.registry.register "PetStore" ⟨none, none, none⟩ = .error error) ∧
    (run.step ("PetStore", ⟨none, none, none⟩)).registry = run.registry := by
  intro run
  obtain ⟨-, -, -, order, last, found, -, fails, unchanged⟩ := registry_of_calls sampleCalls
  have hservice : run.registry.get? "petStore" =
      some ⟨"petStore", "PetStore", ⟨some "https://pets.example", none, none⟩⟩ := rfl
  have hfails : ∃ error, run.registry.register "PetStore" ⟨none, none, none⟩ = .error error :=
    (fails "PetStore" _).mpr
      (.inr ⟨_, ((found _ _).mp hservice).1, by decide, rfl⟩)
  refine ⟨order, ?_, hfails, unchanged _ _ hfails⟩
  intro service hget
  obtain ⟨hmem, hid⟩ := (found _ _).mp hget
  have hlast := last service hmem
  rw [hid] at hlast
  have haccepted : Entries.find? run.accepted.reverse "petStore" =
      some ⟨some "https://pets.example", none, none⟩ := rfl
  rw [haccepted, Option.some.injEq] at hlast
  rw [← hlast]

end Run

end ApiToolkit.Registry
