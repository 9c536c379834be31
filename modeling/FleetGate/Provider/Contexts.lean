import FleetGate.Manager

/-!
# The contexts of a kubeconfig

Every context of a kubeconfig is a target.  The current one is the default.  The manager
of any other context is made when it is first needed and kept.
-/

namespace FleetGate

open Config

/-- The contexts of a kubeconfig. -/
structure ContextProvider where
  /-- What the gate found around it. -/
  env : Environment
  /-- The kubeconfig. -/
  kubeconfig : Kubeconfig
  /-- The manager of the current context, which has the settings of all. -/
  current : Manager
  /-- The managers of other contexts by name. -/
  others : Fields Manager := []
deriving Inhabited

namespace ContextProvider

/-- What a target is called. -/
def parameter : String := "context"

/-- The provider for a kubeconfig.  In a cluster it must be named. -/
def create (env : Environment) (settings : Settings) (validators : List ValidatorKind) :
    Except FleetError ContextProvider := do
  let path? := settings.kubeconfigPath
  if env.runsInCluster && path?.isNone then
    .error (.strategy (Strategy.kubeconfig ++
      " ClusterProviderStrategy is invalid for in-cluster deployments without a kubeconfig"))
  else
    let k ← (Kubeconfig.read env path?).mapError .kubeconfig
    pure { env, kubeconfig := k, current := ← Manager.ofKubeconfig env settings validators k none path? }

/-- The names of the contexts, in byte order. -/
def targets (p : ContextProvider) : List String :=
  ((p.kubeconfig.contexts.map (·.name)).mergeSort fun a b => a < b || a == b).eraseDups

/-- The target that is meant when none is named. -/
def defaultTarget (p : ContextProvider) : String := p.current.currentContext

/-- Which manager a target leads to. -/
inductive Seat where
  /-- That of the current context. -/
  | current
  /-- That of another context. -/
  | other (context : String)
deriving DecidableEq, Repr

/-- The manager at a seat. -/
def managerAt (p : ContextProvider) : Seat → Manager
  | .current => p.current
  | .other context => (Fields.get? context p.others).getD p.current

/-- The provider with another manager at a seat. -/
def setManager (manager : Manager) (p : ContextProvider) : Seat → ContextProvider
  | .current => { p with current := manager }
  | .other context => { p with others := Fields.insert context manager p.others }

/-- Makes the manager of another context. -/
def build (p : ContextProvider) (context : String) : Except FleetError Manager :=
  Manager.ofKubeconfig p.env p.current.settings p.current.validators p.kubeconfig (some context)
    p.current.path?

/-- Where a lookup of a target leads: to a seat that is taken, or to a context whose
manager is still to be made. -/
def lookup (p : ContextProvider) (target : String) : Except FleetError (Seat × Bool) :=
  if target.isEmpty || target == p.defaultTarget then .ok (.current, true)
  else if !p.kubeconfig.contexts.any (·.name == target) then
    .error (.unknownTarget parameter target)
  else .ok (.other target, (Fields.get? target p.others).isSome)

/-- Seats a manager that was made for a context, unless another was seated meanwhile. -/
def seat (context : String) (manager : Manager) (p : ContextProvider) : Seat × ContextProvider :=
  (.other context, { p with others := Fields.insertNew context manager p.others })

/-- The seat of a target, and the provider with a manager there. -/
def seatOf (target : String) (p : ContextProvider) : Except FleetError (Seat × ContextProvider) :=
  match p.lookup target with
  | .error e => .error e
  | .ok (seat, true) => .ok (seat, p)
  | .ok (_, false) => match p.build target with
      | .error e => .error e
      | .ok manager => .ok (p.seat target manager)

/-- Closes all managers and forgets those of other contexts. -/
def close (p : ContextProvider) : ContextProvider :=
  { p with current := p.current.close, others := [] }

variable {m : Type → Type} [Monad m]

/-- Does something with the manager at a seat. -/
def onSeat {α : Type} (seat : Seat) (action : StateT Manager m α) : StateT ContextProvider m α := do
  let (a, manager) ← action.run ((← get).managerAt seat)
  modify fun p => p.setManager manager seat
  pure a

/-- Does something with the manager of a target. -/
def onTarget {α : Type} (target : String) (action : StateT Manager m (Except FleetError α)) :
    StateT ContextProvider m (Except FleetError α) := do
  match (← get).seatOf target with
  | .error e => pure (.error e)
  | .ok (seat, p) =>
      set p
      onSeat seat action

end ContextProvider

end FleetGate
