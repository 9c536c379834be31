import FleetGate.Strategy
import FleetGate.Text.Quoted

/-!
# Registries of validators and strategies

Validators run in the order in which they were registered.  Strategies are listed
in byte order.  A name may be registered once.
-/

namespace FleetGate

/-- Named values in some order, each name once. -/
structure Registry (α : Type) where
  /-- The entries. -/
  entries : List (String × α)

namespace Registry

variable {α : Type}

/-- The names, in order. -/
def names (r : Registry α) : List String := r.entries.map (·.1)

/-- The values, in order. -/
def values (r : Registry α) : List α := r.entries.map (·.2)

/-- The value of a name. -/
def find? (r : Registry α) (name : String) : Option α :=
  (List.find? (·.1 == name) r.entries).map (·.2)

/-- Adds an entry at the end, unless its name is taken. -/
def add? (r : Registry α) (name : String) (value : α) : Option (Registry α) :=
  if r.names.contains name then none else some ⟨r.entries ++ [(name, value)]⟩

/-- The registry in byte order of the names. -/
def sorted (r : Registry α) : Registry α :=
  ⟨r.entries.mergeSort fun a b => a.1 < b.1 || a.1 == b.1⟩

end Registry

/-- The validators that the gate knows how to build. -/
inductive ValidatorKind where
  /-- Asks the server whether its caller may do this. -/
  | rbac
  /-- Checks a body against the schema of its kind. -/
  | schema
deriving DecidableEq, Repr, Inhabited

/-- The name that a validator gives itself. -/
def ValidatorKind.name : ValidatorKind → String
  | .rbac => "rbac"
  | .schema => "schema"

/-- Validators by the names they are registered under. -/
abbrev ValidatorRegistry := Registry ValidatorKind

namespace ValidatorRegistry

/-- The review first and then the schema. -/
def standard : ValidatorRegistry := ⟨[("rbac", .rbac), ("schema", .schema)]⟩

/-- No validators. -/
def none : ValidatorRegistry := ⟨[]⟩

/-- Registers a validator. -/
def register (r : ValidatorRegistry) (name : String) (kind : ValidatorKind) :
    Except String ValidatorRegistry :=
  match r.add? name kind with
  | some r => .ok r
  | Option.none => .error ("validator " ++ Text.quoted name ++ " is already registered")

/-- The text that describes the registry. -/
def describe (r : ValidatorRegistry) : String :=
  "ValidatorRegistry \x7b validators: " ++ Text.quotedList r.names ++ " \x7d"

end ValidatorRegistry

/-- The ways in which a provider reaches its clusters. -/
inductive ProviderKind where
  /-- One cluster. -/
  | single
  /-- The contexts of a kubeconfig. -/
  | contexts
  /-- The managed clusters of a hub. -/
  | hub
deriving DecidableEq, Repr, Inhabited

/-- Providers by the strategies they serve. -/
abbrev ProviderRegistry := Registry ProviderKind

namespace ProviderRegistry

/-- The five strategies. -/
def standard : ProviderRegistry :=
  Registry.sorted ⟨[(Strategy.inCluster, .single), (Strategy.disabled, .single),
    (Strategy.kubeconfig, .contexts), (Strategy.hub, .hub), (Strategy.hubKubeconfig, .hub)]⟩

/-- Registers a strategy. -/
def register (r : ProviderRegistry) (strategy : String) (kind : ProviderKind) :
    Except String ProviderRegistry :=
  match r.add? strategy kind with
  | some r => .ok r.sorted
  | none => .error
      ("cluster provider strategy " ++ Text.quoted strategy ++ " is already registered")

/-- The text that describes the registry. -/
def describe (r : ProviderRegistry) : String :=
  "ProviderRegistry \x7b strategies: " ++ Text.quotedList r.names ++ " \x7d"

/-- The provider of a strategy, or a message with all that there are. -/
def resolve (r : ProviderRegistry) (strategy : String) : Except String ProviderKind :=
  match r.find? strategy with
  | some kind => .ok kind
  | none => .error ("invalid ClusterProviderStrategy " ++ Text.quoted strategy ++
      ", valid values: " ++ ", ".intercalate r.names)

end ProviderRegistry

end FleetGate
