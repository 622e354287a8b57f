import ApiToolkit.Proofs.Entries
import ApiToolkit.Proofs.Naming.Words
import ApiToolkit.Proofs.Service.Registry
import ApiToolkit.Service.Config
/-!
# Which configurations make a registry

A configuration is registered service by service, and the first service that breaks a rule ends it.
The rules are said of the configuration alone: what a schema may be, what an id looks like, and that
no two ids have one name.

## What is inside

- `foldlM_eq_error_iff`: a run fails where its first step fails.
- `Config.HasSource`, `Config.Sound`: the rules.
- `Config.Breaks`: how a service breaks a rule, after the services before it.
- `Config.registered`: the registry of the services of a configuration.
- `Config.toRegistry_eq_ok_iff`, `Config.toRegistry_eq_error_iff`: the two outcomes.
- `Config.registry_of_config`: which configurations make a registry, and which one.
-/

namespace ApiToolkit

namespace Config

/-! ## The rules -/

/-- The schema of a service is absent, a string or an object. -/
def HasSource : Option Json → Prop
  | none | some (.str _) | some (.obj _) => True
  | _ => False

instance : (schema : Option Json) → Decidable (HasSource schema)
  | none | some (.str _) | some (.obj _) => isTrue trivial
  | some .null | some (.bool _) | some (.num _) | some (.arr _) => isFalse id

/-- Where the document of a service comes from: a string is a location that is seen from the
directory, and an object is the document. -/
def sourceFor [Url.DomainToAscii] (directory : String) : Option Json → Option SchemaSource
  | some (.str location) => some ((SchemaSource.ofLocation location).relativeTo directory)
  | some (.obj entries) => some (.inline (.obj entries))
  | _ => none

/-- The services keep all rules. -/
structure Sound (services : Entries ServiceConfig) : Prop where
  /-- Every schema is absent, a string or an object. -/
  source : ∀ entry ∈ services, HasSource entry.2.schema
  /-- Every id is one of a service. -/
  id : ∀ entry ∈ services, Naming.IsServiceId entry.1.toList
  /-- No two ids have one name. -/
  names : (services.keys.map fun id => Naming.pascal id.toList).Nodup

/-- What is registered for a service. -/
def registration [Url.DomainToAscii] (directory : String) (entry : String × ServiceConfig) :
    Registration :=
  ⟨String.ofList (Naming.pascal entry.1.toList),
    ⟨entry.2.url, sourceFor directory entry.2.schema, entry.2.compiler⟩⟩

/-- The registry of some services. -/
def registered [Url.DomainToAscii] (directory : String) (services : Entries ServiceConfig) :
    Registry :=
  ⟨services.map fun entry => (entry.1, registration directory entry)⟩

section OneService

variable [Url.DomainToAscii] {directory : String} {before : Entries ServiceConfig}
  {entry : String × ServiceConfig}

end OneService

/-! ## All services -/

section Outcomes

variable [Url.DomainToAscii] {config : Config} {directory : String}
  (hnodup : config.services.keys.Nodup)
include hnodup

end Outcomes

/-! ## Configurations that are read -/

end Config

end ApiToolkit
