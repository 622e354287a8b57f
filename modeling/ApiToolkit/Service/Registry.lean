import ApiToolkit.Service.Source
/-!
# The registry of services

Services are kept in the order in which they were first registered.  No two of them have the same
type names.

## What is inside

- `ServiceOptions`, `Service`: what is known about a service.
- `Registry.register`: adds a service or replaces it in place.
- `Registry.get?`, `Registry.services`, `Registry.withSchemas`: the views.
-/

namespace ApiToolkit

/-- What is configured for a service. -/
structure ServiceOptions where
  /-- The base address for clients. -/
  url : Option String
  /-- Where the document comes from. -/
  schema : Option SchemaSource
  /-- Options for the compiler. -/
  compilerOptions : Option (Entries Json)

/-- What a registry holds for an id. -/
structure Registration where
  /-- The prefix of the type names. -/
  identifier : String
  /-- What is configured. -/
  options : ServiceOptions

/-- A registered service. -/
structure Service where
  /-- The id. -/
  id : String
  /-- The prefix of the type names. -/
  identifier : String
  /-- What is configured. -/
  options : ServiceOptions

/-- The registered services. -/
structure Registry where
  /-- What is held for each id, in the order of first registration. -/
  registrations : Entries Registration

namespace Registry

/-- The registry without services. -/
def empty : Registry := ⟨[]⟩

/-- The first id other than `id` whose type names have this prefix. -/
def holder? (registry : Registry) (id identifier : String) : Option String :=
  (List.find? (fun entry => entry.1 != id && entry.2.identifier == identifier)
    registry.registrations).map (·.1)

/-- Registers a service.  An earlier registration of the id is replaced in place. -/
def register (registry : Registry) (id : String) (options : ServiceOptions) :
    Except GeneratorError Registry :=
  match Naming.serviceIdentifier id with
  | .error fault => .error (.invalidServiceId id fault)
  | .ok identifier =>
    -- An id does not collide with its own earlier registration.
    match registry.holder? id identifier with
    | some existing => .error (.namingCollision id existing identifier)
    | none => .ok ⟨registry.registrations.put id ⟨identifier, options⟩⟩

/-- The service that is registered under an id. -/
def get? (registry : Registry) (id : String) : Option Service :=
  (Entries.find? registry.registrations id).map fun r => ⟨id, r.identifier, r.options⟩

/-- All services in order. -/
def services (registry : Registry) : List Service :=
  registry.registrations.map fun entry => ⟨entry.1, entry.2.identifier, entry.2.options⟩

/-- The services that have a schema, in order. -/
def withSchemas (registry : Registry) : List Service :=
  registry.services.filter fun service => service.options.schema.isSome

/-- Whether a service has a schema. -/
def hasSchemas (registry : Registry) : Bool := !registry.withSchemas.isEmpty

/-- How many services there are. -/
def size (registry : Registry) : Nat := registry.registrations.length

end Registry

end ApiToolkit
