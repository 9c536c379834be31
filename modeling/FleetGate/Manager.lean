import FleetGate.Caller
import FleetGate.ClusterWatcher
import FleetGate.Handle
import FleetGate.Kubeconfig.Connecting
import FleetGate.TokenReview

/-!
# Managers of clusters

A manager looks after one cluster.  It has the kubeconfig of the cluster, a client
with the gate's own credentials, and perhaps a watcher of the cluster's state, and it
hands out handles.

* A caller without a token gets the manager's own client, unless a token is required.
* If tokens are to be reviewed, a token that the cluster does not accept gets nothing.
* Otherwise a caller with a token gets a client that has this token and no other
  credentials.  If such a client cannot be had, the caller gets the manager's own
  client, or nothing if a token is required.

No view of a manager shows its users.
-/

namespace FleetGate

open Config

/-- A manager of a cluster. -/
structure Manager where
  /-- The settings of the gate. -/
  settings : Settings
  /-- The validators of the gate. -/
  validators : List ValidatorKind
  /-- What the client was made from. -/
  config : ClientConfig
  /-- The kubeconfig of the cluster. -/
  kubeconfig : Kubeconfig
  /-- The file that the kubeconfig was read from, if one was named. -/
  path? : Option String := none
  /-- Whether this is the cluster that the gate runs in. -/
  inCluster : Bool := false
  /-- The client with the gate's own credentials. -/
  client : Client
  /-- What watches the state of the cluster, if anything does or did. -/
  watcher? : Option ClusterWatcher := none
  /-- Whether the manager was closed. -/
  isClosed : Bool := false
deriving Inhabited

/-- A flaw of a client as a failure of the fleet. -/
def ClientFlaw.toFleetError : ClientFlaw → FleetError
  | .unusable reason => .call (.service reason)
  | .breakdown reason => .breakdown reason

namespace Manager

/-- A manager whose client calls a service at hand. -/
def atHand (settings : Settings) (validators : List ValidatorKind) (config : ClientConfig)
    (kubeconfig : Kubeconfig) : Except ClientFlaw Manager := do
  let client ← Client.atHand config (settings.rules validators)
  pure { settings, validators, config, kubeconfig, client }

/-- A manager whose client calls a server. -/
def connect (fs : Files) (settings : Settings) (validators : List ValidatorKind)
    (config : ClientConfig) (kubeconfig : Kubeconfig) : Except ClientFlaw Manager := do
  let client ← Client.connect fs config (settings.rules validators)
  pure { settings, validators, config, kubeconfig, client }

/-- The manager of a context, or of the current one. -/
def ofKubeconfig (env : Environment) (settings : Settings) (validators : List ValidatorKind)
    (k : Kubeconfig) (context path? : Option String) : Except FleetError Manager := do
  let connection ← (k.connection env.files context).mapError .kubeconfig
  let k := match context with
    | some name => { k with current := some name }
    | none => k
  let g ← (connect env.files settings validators (env.client connection) k).mapError
    ClientFlaw.toFleetError
  pure { g with path? }

/-- The manager of the kubeconfig of a path, or of the environment. -/
def load (env : Environment) (settings : Settings) (validators : List ValidatorKind)
    (path? : Option String) : Except FleetError Manager := do
  let k ← (Kubeconfig.read env path?).mapError .kubeconfig
  ofKubeconfig env settings validators k none path?

/-- The manager of the cluster that the gate runs in. -/
def ofPod (env : Environment) (settings : Settings) (validators : List ValidatorKind) :
    Except FleetError Manager := do
  let connection ← (Connection.ofPod env.files).mapError .inCluster
  let g ← (connect env.files settings validators (env.client connection)
    (connection.kubeconfig inClusterContext)).mapError ClientFlaw.toFleetError
  pure { g with inCluster := true }

/-- The files whose changes call for a reload. -/
def watchedFiles (env : Environment) (g : Manager) : List String :=
  if g.inCluster then []
  else KubeconfigFiles.watched env.files g.path? env.kubeconfigs env.home

/-! ## Views -/

/-- The name of the current context. -/
def currentContext (g : Manager) : String := g.kubeconfig.currentName

/-- The kubeconfig that callers may see. -/
def view (minified : Bool) (g : Manager) : Kubeconfig := g.kubeconfig.view minified

/-- Whether something watches the state of the cluster. -/
def watches (g : Manager) : Bool := g.watcher?.isSome

/-- The text that describes a manager. -/
def describe (g : Manager) : String :=
  let option? (s : Option String) : String := match s with
    | some s => "Some(" ++ Text.quoted s ++ ")"
    | none => "None"
  "Manager \x7b cluster_url: " ++ g.config.connection.address.text ++ ", current_context: " ++
    option? g.kubeconfig.current ++ ", kubeconfig_path: " ++ option? g.path? ++
    ", in_cluster: " ++ (if g.inCluster then "true" else "false") ++ ", .. \x7d"

/-- The kubeconfig of a handle. -/
def kubeconfigOf (g : Manager) : Handle → Kubeconfig
  | .own => g.kubeconfig
  | .derived _ kubeconfig => kubeconfig

/-! ## Deriving handles -/

/-- The kubeconfig of a derived handle, whose current context must be there. -/
def derivedKubeconfig (k : Kubeconfig) : Except FleetError Kubeconfig :=
  if k.contexts.any (·.name == k.currentName) then .ok k.withoutUsers
  else .error (.kubeconfigUnavailable
    ("context " ++ Text.quoted k.currentName ++ " does not exist"))

/-- The client of a derived handle. -/
def derivedClient (g : Manager) (token : String) (userAgent : Option String) :
    Except ClientFlaw Client :=
  Client.connect Files.nothing (g.config.derive token userAgent) (g.settings.rules g.validators)

/-- What a caller gets when no client can be derived. -/
def fallback (g : Manager) (e : FleetError) : Except FleetError Handle :=
  if g.settings.requireOauth then .error e else .ok .own

/-- The handle for a token that needs no review or has passed it. -/
def handleFor (g : Manager) (token : String) (userAgent : Option String) :
    Except FleetError Handle :=
  match derivedKubeconfig g.kubeconfig with
  | .error e => g.fallback e
  | .ok kubeconfig => match g.derivedClient token userAgent with
      | .ok client => .ok (.derived client kubeconfig)
      | .error (.unusable reason) => g.fallback (.derivedClient reason)
      | .error (.breakdown reason) => .error (.breakdown reason)

variable {m : Type → Type} [Monad m]

/-- Does something with the manager's client. -/
def onClient {α : Type} (action : StateT Client m α) : StateT Manager m α := do
  let g ← get
  let (a, client) ← action.run g.client
  set { g with client }
  pure a

variable [Network m]

/-- The owner of a token. -/
def verify (token : String) (audience : Option String) :
    StateT Manager m (Except FleetError TokenIdentity) :=
  onClient (TokenReview.verify Client.send token audience)

/-- The handle for a caller. -/
def derive (caller : Caller) : StateT Manager m (Except FleetError Handle) := do
  let settings := (← get).settings
  match caller.token? with
  | none => pure (if settings.requireOauth then .error .tokenRequired else .ok .own)
  | some token =>
      let review : Except FleetError Unit ←
        if settings.validateToken then pure ((← verify token none).map fun _ => ())
        else pure (.ok ())
      match review with
      | .error e => pure (.error e)
      | .ok () => pure ((← get).handleFor token caller.userAgent)

/-- Derives a handle for a caller and does something with it. -/
def withHandle {α : Type} (caller : Caller) (action : Handle → StateT Manager m α) :
    StateT Manager m (Except FleetError α) := do
  match ← derive caller with
  | .error e => pure (.error e)
  | .ok h => return .ok (← action h)

/-- Does something with the client of a handle. -/
def onHandle {α : Type} (h : Handle) (action : StateT Client m α) : StateT Manager m α :=
  match h with
  | .own => onClient action
  | .derived client _ => do return (← action.run client).1

/-- Whether the cluster is an OpenShift cluster.  One that does not answer is none. -/
def isOpenshift : StateT Manager m Bool := do
  match ← onClient Client.capture with
  | .ok state => pure state.openshift
  | .error _ => pure false

/-! ## Watching -/

/-- What the watcher of a manager works on. -/
def stateSource (reload : m Bool) : StateSource (StateT Manager m) where
  capture := do return (← onClient Client.capture).toOption
  invalidate := onClient Client.forget
  reload := reload

/-- Begins to watch the state of the cluster, in place of what watched it before.  A
manager that was closed watches nothing any more. -/
def watch (settings : WatchSettings) (g : Manager) : Manager :=
  { g with watcher? := some (if g.isClosed then .stopped else .starting settings) }

/-- Does all that the watcher has to do up to a time, in at most `limit` turns. -/
def runTo (reload : m Bool) (time limit : Nat) : StateT Manager m Unit := do
  match (← get).watcher? with
  | none => pure ()
  | some w =>
      let w ← w.runTo (stateSource reload) time limit
      modify fun g => { g with watcher? := some w }

/-- Closes a manager, and with it its watcher. -/
def close (g : Manager) : Manager := { g with isClosed := true, watcher? := none }

end Manager

end FleetGate
