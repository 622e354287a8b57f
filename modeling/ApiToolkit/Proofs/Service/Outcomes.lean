import ApiToolkit.Service.Declarations
/-!
# What is made of the services

The surroundings of a run are any state: files are read from it, documents are fetched and compilers
run over it.  Whatever they do, the types of a service come from its own document and its own
options, and a service that fails does not keep the others from theirs.

## What is inside

- `Declarations.Made`: how the types of one service come about, in any state.
- `Declarations.MadeAll`: the same for services one after the other.
- `Declarations.madeAll_outcomes`: the outcomes of a registry come about in this way.
- `Declarations.outcomes_of_onlyReads`: surroundings that are only looked at give every service what
  they would give it alone.
-/

namespace ApiToolkit.Declarations

section Surroundings

variable {σ : Type} (files : Files.Host (StateM σ)) (fetch : Url → StateM σ (Option String))
  (compiler : Compiler (StateM σ))

/-- How the types of a service come about between two states of the surroundings. -/
inductive Made (service : Service) (before : σ) : Except GeneratorError String → σ → Prop where
  /-- The service's own document is compiled with the service's own options. -/
  | compiled {source : SchemaSource} {document : Json} {between after : σ} {types : String}
      (declared : service.options.schema = some source)
      (resolved : (source.resolve files fetch service.id).run before = (.ok document, between))
      (accepted : (compiler document service.options.compilerOptions).run between =
        (.ok types, after)) : Made service before (.ok types) after
  /-- The compiler refuses the document. -/
  | refused {source : SchemaSource} {document : Json} {between after : σ} {fault : CompilerError}
      (declared : service.options.schema = some source)
      (resolved : (source.resolve files fetch service.id).run before = (.ok document, between))
      (refused : (compiler document service.options.compilerOptions).run between =
        (.error fault, after)) : Made service before (.error (.compile service.id fault)) after
  /-- The document cannot be found, and nothing is compiled. -/
  | unresolved {source : SchemaSource} {error : GeneratorError} {after : σ}
      (declared : service.options.schema = some source)
      (failed : (source.resolve files fetch service.id).run before = (.error error, after)) :
      Made service before (.error error) after

/-- How the types of services come about one after the other.  The others follow whether or not the
first one fails. -/
inductive MadeAll : List Service → σ → List ServiceTypes → σ → Prop where
  | nil (state : σ) : MadeAll [] state [] state
  | cons {service : Service} {others : List Service} {types : Except GeneratorError String}
      {outcomes : List ServiceTypes} {before between after : σ}
      (first : Made files fetch compiler service before types between)
      (rest : MadeAll others between outcomes after) :
      MadeAll (service :: others) before (⟨service, types⟩ :: outcomes) after

variable {files fetch compiler}

/-! ## One service -/

theorem made_compileService {service : Service} (h : service.options.schema.isSome = true)
    (before : σ) :
    Made files fetch compiler service before
      ((compileService files fetch compiler service).run before).1
      ((compileService files fetch compiler service).run before).2 := by
  obtain ⟨source, hsource⟩ := Option.isSome_iff_exists.mp h
  have hrun : (compileService files fetch compiler service).run before =
      match (source.resolve files fetch service.id).run before with
      | (.error error, between) => (.error error, between)
      | (.ok document, between) =>
        match (compiler document service.options.compilerOptions).run between with
        | (result, after) => (result.mapError (.compile service.id), after) := by
    unfold compileService
    rw [hsource]
    dsimp only
    rw [StateT.run_bind]
    rcases (source.resolve files fetch service.id).run before with ⟨error | document, between⟩ <;>
      rfl
  rw [hrun]
  cases hresolve : (source.resolve files fetch service.id).run before with
  | mk result between =>
    cases result with
    | error error => exact .unresolved hsource hresolve
    | ok document =>
      dsimp only
      cases hcompile : (compiler document service.options.compilerOptions).run between with
      | mk result after =>
        cases result with
        | error fault => exact .refused hsource hresolve hcompile
        | ok types => exact .compiled hsource hresolve hcompile

/-! ## All services -/

theorem MadeAll.map_service {services : List Service} {outcomes : List ServiceTypes}
    {before after : σ} (h : MadeAll files fetch compiler services before outcomes after) :
    outcomes.map (·.service) = services := by
  induction h with
  | nil => rfl
  | cons _ _ ih => rw [List.map_cons, ih]

/-- The types of one service, and then those of the others in the state that is left. -/
theorem run_mapM_cons (service : Service) (others : List Service) (before : σ) :
    let make := fun service => do
      return (⟨service, ← compileService files fetch compiler service⟩ : ServiceTypes)
    let first := (compileService files fetch compiler service).run before
    let rest := (others.mapM make).run first.2
    ((service :: others).mapM make).run before = (⟨service, first.1⟩ :: rest.1, rest.2) := by
  intro make first rest
  rw [List.mapM_cons]
  rfl

/-- Every service with a schema has its types made, and no other service. -/
theorem madeAll_outcomes (registry : Registry) (start : σ) :
    MadeAll files fetch compiler registry.withSchemas start
      ((outcomes files fetch compiler registry).run start).1
      ((outcomes files fetch compiler registry).run start).2 := by
  have hsome : ∀ service ∈ registry.withSchemas, service.options.schema.isSome = true :=
    fun service h => (List.mem_filter.mp h).2
  unfold outcomes
  generalize registry.withSchemas = services at hsome
  induction services generalizing start with
  | nil => exact .nil start
  | cons service others ih =>
    obtain ⟨hservice, hothers⟩ := List.forall_mem_cons.mp hsome
    rw [run_mapM_cons]
    exact .cons (made_compileService hservice start) (ih _ hothers)

/-! ## Surroundings that are only looked at -/

variable (files fetch compiler) in
/-- Whether making types leaves the surroundings as they are. -/
def OnlyReads : Prop :=
  ∀ service state, ((compileService files fetch compiler service).run state).2 = state

/-- No service finds anything of what was made before. -/
theorem outcomes_of_onlyReads (h : OnlyReads files fetch compiler) (registry : Registry)
    (start : σ) :
    ((outcomes files fetch compiler registry).run start).1 =
      registry.withSchemas.map fun service =>
        ⟨service, ((compileService files fetch compiler service).run start).1⟩ := by
  unfold outcomes
  induction registry.withSchemas with
  | nil => rfl
  | cons service others ih =>
    rw [run_mapM_cons]
    dsimp only
    rw [h service start, ih, List.map_cons]

end Surroundings

end ApiToolkit.Declarations
