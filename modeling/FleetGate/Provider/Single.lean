import FleetGate.Manager

/-!
# One cluster

The strategies for one cluster know no targets.  A request that names one fails.
-/

namespace FleetGate

open Config

/-- One cluster. -/
structure SingleProvider where
  /-- The strategy. -/
  strategy : String
  /-- The manager of the cluster. -/
  manager : Manager
deriving Inhabited

namespace SingleProvider

/-- Whether the own cluster may be used: the gate must run in one, and no kubeconfig may
be named. -/
def checkOwn (env : Environment) (path? : Option String) : Except FleetError Unit :=
  if !env.runsInCluster then
    .error (.strategy
      "server must be deployed in cluster for the in-cluster ClusterProviderStrategy")
  else match path? with
    | some path => .error (.strategy ("kubeconfig file " ++ path ++
        " cannot be used with the in-cluster ClusterProviderStrategy"))
    | none => .ok ()

/-- The provider of a strategy. -/
def create (env : Environment) (settings : Settings) (validators : List ValidatorKind)
    (strategy : String) : Except FleetError SingleProvider := do
  let path? := settings.kubeconfigPath
  if strategy == Strategy.inCluster then
    checkOwn env path?
    pure ⟨strategy, ← Manager.ofPod env settings validators⟩
  else pure ⟨strategy, ← Manager.load env settings validators path?⟩

/-- Refuses a target. -/
def check (p : SingleProvider) (target : String) : Except FleetError Unit :=
  if target.isEmpty then .ok () else .error (.targetNotSupported p.strategy)

variable {m : Type → Type} [Monad m]

/-- Does something with the manager. -/
def onManager {α : Type} (action : StateT Manager m α) : StateT SingleProvider m α := do
  let p ← get
  let (a, manager) ← action.run p.manager
  set { p with manager }
  pure a

/-- Does something with the manager if no target is named. -/
def onTarget {α : Type} (target : String) (action : StateT Manager m (Except FleetError α)) :
    StateT SingleProvider m (Except FleetError α) := do
  match (← get).check target with
  | .error e => pure (.error e)
  | .ok () => onManager action

end SingleProvider

end FleetGate
