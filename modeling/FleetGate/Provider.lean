import FleetGate.Provider.Contexts
import FleetGate.Provider.Hub
import FleetGate.Provider.Single
import FleetGate.Registry

/-!
# Providers

A provider stands between callers and the clusters of a fleet.  A caller names a target,
and the provider finds the manager of the target and derives a handle from it.

* `targets` are the targets that can be named, and `defaultTarget` is the one that is
  meant when none is.
* `withHandle` and `verify` do something with the cluster of a target.
* `startWatching` and `runTo` follow what changes in the fleet, until `close`.
-/

namespace FleetGate

open Config

/-- A provider. -/
inductive Provider where
  /-- One cluster. -/
  | single (p : SingleProvider)
  /-- The contexts of a kubeconfig. -/
  | contexts (p : ContextProvider)
  /-- The managed clusters of a hub. -/
  | hub (p : HubProvider)
deriving Inhabited

namespace Provider

/-- The strategy. -/
def strategy : Provider → String
  | single p => p.strategy
  | contexts _ => Strategy.kubeconfig
  | hub p => p.strategy

/-- What a target is called, if there are any. -/
def parameter : Provider → String
  | single _ => ""
  | contexts _ => ContextProvider.parameter
  | hub _ => HubProvider.parameter

/-- The targets. -/
def targets : Provider → List String
  | single _ => [""]
  | contexts p => p.targets
  | hub p => p.targets

/-- The target that is meant when none is named. -/
def defaultTarget : Provider → String
  | single _ => ""
  | contexts p => p.defaultTarget
  | hub p => p.defaultTarget

/-- The manager that the provider began with. -/
def mainManager : Provider → Manager
  | single p => p.manager
  | contexts p => p.current
  | hub p => p.hub

/-- The provider with another manager in place of the one that it began with. -/
def setMainManager (manager : Manager) : Provider → Provider
  | single p => .single { p with manager }
  | contexts p => .contexts { p with current := manager }
  | hub p => .hub { p with hub := manager }

/-- The files whose changes call for a reload. -/
def watchedFiles (env : Environment) (p : Provider) : List String :=
  p.mainManager.watchedFiles env

/-- Closes all that the provider has. -/
def close : Provider → Provider
  | single p => .single { p with manager := p.manager.close }
  | contexts p => .contexts p.close
  | hub p => .hub p.close

/-- Begins to watch. -/
def startWatching (env : Environment) (now : Nat) : Provider → Provider
  | hub p => .hub (p.startWatching now)
  | p => p.setMainManager (p.mainManager.watch env.watchSettings)

variable {m : Type → Type} [Monad m]

/-- Does something with the manager that the provider began with. -/
def onMainManager {α : Type} (action : StateT Manager m α) : StateT Provider m α := do
  let (a, manager) ← action.run (← get).mainManager
  modify (·.setMainManager manager)
  pure a

/-- Does something with the kind of provider that this one is. -/
def onKind {α : Type} (single : StateT SingleProvider m α) (contexts : StateT ContextProvider m α)
    (hub : StateT HubProvider m α) : StateT Provider m α := do
  match ← get with
  | .single p =>
      let (a, p) ← single.run p
      set (Provider.single p)
      pure a
  | .contexts p =>
      let (a, p) ← contexts.run p
      set (Provider.contexts p)
      pure a
  | .hub p =>
      let (a, p) ← hub.run p
      set (Provider.hub p)
      pure a

variable [Network m]

/-- Derives a handle for a caller and a target, and does something with it. -/
def withHandle {α : Type} (exchange : TokenExchange.Exchanger m) (caller : Caller)
    (target : String) (action : Handle → StateT Manager m α) :
    StateT Provider m (Except FleetError α) :=
  onKind (SingleProvider.onTarget target (Manager.withHandle caller action))
    (ContextProvider.onTarget target (Manager.withHandle caller action))
    (HubProvider.withHandle exchange caller target action)

/-- The owner of a token, as the cluster of a target sees it. -/
def verify (target token : String) (audience : Option String) :
    StateT Provider m (Except FleetError TokenIdentity) :=
  onKind (SingleProvider.onTarget target (Manager.verify token audience))
    (ContextProvider.onTarget target (Manager.verify token audience))
    (HubProvider.onTarget target (Manager.verify token audience))

/-- Whether the cluster that the provider began with is an OpenShift cluster. -/
def isOpenshift : StateT Provider m Bool := onMainManager Manager.isOpenshift

/-- Does everything that is due up to a time, in at most `limit` turns. -/
def runTo (reload : m Bool) (time limit : Nat) : StateT Provider m Unit := do
  match ← get with
  | .hub _ => onKind (pure ()) (pure ()) (HubProvider.runTo reload time limit)
  | _ => onMainManager (Manager.runTo reload time limit)

/-- The provider that the settings ask for. -/
def create (registry : ProviderRegistry) (env : Environment) (settings : Settings)
    (validators : List ValidatorKind) : m (Except FleetError Provider) := do
  let strategy := settings.resolvedStrategy env.runsInCluster
  match registry.resolve strategy with
  | .error message => pure (.error (.strategy message))
  | .ok .single => pure ((SingleProvider.create env settings validators strategy).map .single)
  | .ok .contexts => pure ((ContextProvider.create env settings validators).map .contexts)
  | .ok .hub => return (← HubProvider.create env settings validators strategy).map .hub

end Provider

end FleetGate
