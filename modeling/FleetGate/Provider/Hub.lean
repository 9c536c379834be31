import FleetGate.Discovery
import FleetGate.Manager
import FleetGate.Membership
import FleetGate.TokenExchange

/-!
# The managed clusters of a hub

Every managed cluster of a hub is a target.  The hub itself is reached by its own
manager.  Any other cluster is reached through the hub's proxy, under its name, and its
manager is made when it is first needed and kept until the cluster goes away.

A caller's token may have to be exchanged for one that the cluster accepts.  The table of
the hub says how, for each cluster or for all of them.  If the exchange fails, so does
the request.

The clusters are listed once at the start, and then their changes can be watched.
-/

namespace FleetGate

open Config

/-- How changes of the clusters are watched. -/
inductive HubWatch where
  /-- They are not watched. -/
  | idle
  /-- The next stream is opened at a time. -/
  | opening (time : Nat)
  /-- A stream is open and brings nothing. -/
  | silent
deriving DecidableEq, Repr, Inhabited

/-- The managed clusters of a hub. -/
structure HubProvider where
  /-- What the gate found around it. -/
  env : Environment
  /-- The strategy. -/
  strategy : String
  /-- The table of the hub. -/
  table : Hub
  /-- The host of the hub's proxy. -/
  proxyHost : String
  /-- The manager of the hub, which has the settings of all. -/
  hub : Manager
  /-- The clusters and their managers. -/
  membership : Membership Manager := {}
  /-- How changes of the clusters are watched. -/
  watch : HubWatch := .idle
  /-- Whether the provider was closed. -/
  isClosed : Bool := false
deriving Inhabited

namespace HubProvider

/-- What a target is called. -/
def parameter : String := "cluster"

/-- The group of managed clusters. -/
def clusterGroup : String := "cluster.open-cluster-management.io"

/-- The managed clusters of a hub. -/
def clusterResource : ApiResource := ⟨clusterGroup, "v1", "managedclusters"⟩

/-- The kind of a managed cluster. -/
def clusterKind : Gvk := ⟨clusterGroup, "v1", "ManagedCluster"⟩

/-- How long a stream of changes is asked for, in seconds. -/
def watchSeconds : Nat := 290

/-! ## The proxy of a hub -/

/-- The namespace of the proxy. -/
def proxyNamespace : String := "multicluster-engine"

/-- The name of the proxy. -/
def proxyName : String := "cluster-proxy-addon-user"

/-- The port of the proxy unless its service names another. -/
def defaultProxyPort : Int := 9092

/-- The routes of a hub. -/
def routeResource : ApiResource := ⟨"route.openshift.io", "v1", "routes"⟩

/-- The services of a hub. -/
def serviceResource : ApiResource := ⟨"", "v1", "services"⟩

open Api in
/-- The shape of a service. -/
def serviceShape : Shape :=
  .typed "v1" "Service" [("metadata", .objectMeta),
    ("spec", .record [("allocateLoadBalancerNodePorts", .bool), ("clusterIP", .text),
      ("clusterIPs", .list .text), ("externalIPs", .list .text), ("externalName", .text),
      ("externalTrafficPolicy", .text), ("healthCheckNodePort", .int32),
      ("internalTrafficPolicy", .text), ("ipFamilies", .list .text), ("ipFamilyPolicy", .text),
      ("loadBalancerClass", .text), ("loadBalancerIP", .text),
      ("loadBalancerSourceRanges", .list .text),
      ("ports", .list (.record [("appProtocol", .text), ("name", .text), ("nodePort", .int32),
        ("port", .int32), ("protocol", .text), ("targetPort", .int32OrText)])),
      ("publishNotReadyAddresses", .bool), ("selector", .map .text), ("sessionAffinity", .text),
      ("sessionAffinityConfig", .record [("clientIP", .record [("timeoutSeconds", .int32)])]),
      ("trafficDistribution", .text), ("type", .text)]),
    ("status", .record [
      ("conditions", .list (.record [("lastTransitionTime", .time), ("message", .text),
        ("observedGeneration", .int64), ("reason", .text), ("status", .text), ("type", .text)])),
      ("loadBalancer", .record [("ingress", .list (.record [("hostname", .text), ("ip", .text),
        ("ipMode", .text), ("ports", .list (.record [("error", .text), ("port", .int32),
          ("protocol", .text)]))]))])])]

open Api in
/-- The first port of a service.  A port that says nothing is zero. -/
def servicePort : Wanted (Option Int) := fun draft =>
  (serviceShape.wanted draft).map fun j =>
    let ports := itemsField "ports" ((j.field? "spec").getD .null)
    ports.head?.map fun port => ((port.field? "port").bind Json.int?).getD 0

/-- The host in a route, if it names one. -/
def routeHost? (route : ApiObject) : Option String :=
  (((route.data.field? "spec").bind (·.field? "host")).bind Json.str?).filter (!·.isEmpty)

/-- The host of the proxy's service. -/
def serviceHost (port : Int) : String :=
  proxyName ++ "." ++ proxyNamespace ++ ".svc:" ++ toString port

section

variable {m : Type → Type} [Monad m] [Network m]

/-- Finds the proxy of a hub: by its route, or else by its service. -/
def findProxy : StateT Client m (Except FleetError String) := do
  let byRoute ← routeResource.get Client.send (some proxyNamespace) proxyName
  match byRoute.toOption.bind routeHost? with
  | some host => pure (.ok host)
  | none =>
      match ← serviceResource.getAs Client.send servicePort (some proxyNamespace) proxyName with
      | .error e => pure (.error (.hub ("failed to discover cluster proxy addon: " ++ e.message)))
      | .ok port => pure (.ok (serviceHost (port.getD defaultProxyPort)))

/-- Makes sure that a hub serves managed clusters. -/
def checkHub : StateT Client m (Except FleetError Unit) := do
  let version := clusterGroup ++ "/v1"
  match ← Api.get Client.send Discovery.resourceNames ("/apis/" ++ version) with
  | .error e => pure (.error (.hub ("ManagedCluster API not available on hub: " ++ e.message)))
  | .ok names =>
      if names.contains clusterResource.plural then pure (.ok ())
      else pure (.error (.hub ("ManagedCluster API not available on hub: " ++ version ++
        " does not serve managedclusters")))

end

/-! ## Managers of clusters -/

/-- The topology of the hub. -/
def topology (p : HubProvider) : Topology Manager := p.membership.topology

/-- The provider with another topology. -/
def setTopology (t : Topology Manager) (p : HubProvider) : HubProvider :=
  { p with membership := { p.membership with topology := t } }

/-- The names of the clusters. -/
def targets (p : HubProvider) : List String := p.topology.names

/-- The cluster that is meant when none is named. -/
def defaultTarget (p : HubProvider) : String := p.topology.defaultName

/-- The certificates in the file of the proxy's authorities, of which there must be one. -/
def readAuthorities (fs : Files) (path : String) : Except FleetError (List (List UInt8)) :=
  match fs.read path with
  | .error e => .error (.hub ("failed to read CA file " ++ path ++ ": " ++ e.message))
  | .ok text => match Pem.blocks? text with
      | none => .error (.hub ("invalid CA file " ++ path))
      | some [] => .error (.hub ("CA file " ++ path ++ " contains no certificates"))
      | some blocks => .ok (blocks.map (·.contents))

/-- How a cluster is reached through the proxy.  Waiting times and credentials are those of
the hub. -/
def spokeConnection (p : HubProvider) (cluster : String) : Except FleetError Connection := do
  let address ← (Uri.parse ("https://" ++ p.proxyHost ++ "/" ++ cluster)).mapError fun flaw =>
    .hub ("invalid proxy url for cluster " ++ cluster ++ ": " ++ flaw.message)
  let authorities ← match p.table.authorityFile.filter fun _ => !p.table.skipVerify with
    | some path => (readAuthorities p.env.files path).map some
    | none => pure none
  let hub := p.hub.config.connection
  pure {
    address, authorities
    insecure := p.table.skipVerify
    connectTimeout := hub.connectTimeout
    readTimeout := hub.readTimeout
    writeTimeout := hub.writeTimeout
    credentials := hub.credentials }

/-- Makes the manager of a cluster. -/
def build (p : HubProvider) (cluster : String) : Except FleetError Manager := do
  let connection ← p.spokeConnection cluster
  (Manager.connect p.env.files p.hub.settings p.hub.validators
    { p.hub.config with connection } (connection.kubeconfig cluster)).mapError
      ClientFlaw.toFleetError

/-- Which manager a target leads to. -/
inductive Seat where
  /-- That of the hub. -/
  | hub
  /-- That of another cluster. -/
  | spoke (cluster : String)
deriving DecidableEq, Repr

/-- The manager at a seat. -/
def managerAt (p : HubProvider) : Seat → Manager
  | .hub => p.hub
  | .spoke cluster => (p.topology.held? cluster).getD p.hub

/-- The provider with another manager at a seat. -/
def setManager (manager : Manager) (p : HubProvider) : Seat → HubProvider
  | .hub => { p with hub := manager }
  | .spoke cluster => p.setTopology (p.topology.update cluster manager)

/-- Where a lookup of a target leads: to a seat that is taken, or to a cluster whose
manager is still to be made. -/
def lookup (p : HubProvider) (target : String) : Except FleetError (Seat × Bool) :=
  match p.topology.find target with
  | .hub => .ok (.hub, true)
  | .held _ => .ok (.spoke target, true)
  | .vacant => .ok (.spoke target, false)
  | .unknown => .error (.unknownTarget parameter target)

/-- Seats a manager that was made for a cluster, unless another was seated meanwhile. -/
def seat (cluster : String) (manager : Manager) (p : HubProvider) :
    Except FleetError (Seat × HubProvider) :=
  match p.topology.claim cluster manager with
  | some (_, t) => .ok (.spoke cluster, p.setTopology t)
  | none => .error (.unknownTarget parameter cluster)

/-- The seat of a target, and the provider with a manager there. -/
def seatOf (target : String) (p : HubProvider) : Except FleetError (Seat × HubProvider) :=
  match p.lookup target with
  | .error e => .error e
  | .ok (seat, true) => .ok (seat, p)
  | .ok (_, false) => match p.build target with
      | .error e => .error e
      | .ok manager => p.seat target manager

/-! ## Tokens -/

/-- How a token for a cluster is obtained, if that is said at all: as the table says for
the cluster, or else as the settings say for all. -/
def exchangeTarget? (p : HubProvider) (cluster : String) : Option ExchangeTarget :=
  (p.table.target? cluster).or (TokenExchange.defaultTarget p.hub.settings p.table.tokenUrl)

variable {m : Type → Type} [Monad m]

/-- The caller as a cluster sees them: with a token that it accepts. -/
def exchangeFor (exchange : TokenExchange.Exchanger m) (caller : Caller) (cluster : String)
    (p : HubProvider) : m (Except FleetError Caller) :=
  match caller.token?, p.exchangeTarget? cluster with
  | some token, some target => do
      let realm := TokenExchange.Realm.detect p.table.tokenUrl target.tokenUrl
      match ← exchange target token realm with
      | .error e => pure (.error e)
      | .ok fresh => pure (.ok (.withToken fresh caller.userAgent))
  | _, _ => pure (.ok caller)

/-- Does something with the manager at a seat. -/
def onSeat {α : Type} (seat : Seat) (action : StateT Manager m α) : StateT HubProvider m α := do
  let (a, manager) ← action.run ((← get).managerAt seat)
  modify fun p => p.setManager manager seat
  pure a

/-- Does something with the manager of a target. -/
def onTarget {α : Type} (target : String) (action : StateT Manager m (Except FleetError α)) :
    StateT HubProvider m (Except FleetError α) := do
  match (← get).seatOf target with
  | .error e => pure (.error e)
  | .ok (seat, p) =>
      set p
      onSeat seat action

/-- Derives a handle for a caller and does something with it.  An empty target is the
default one. -/
def withHandle {α : Type} [Network m] (exchange : TokenExchange.Exchanger m) (caller : Caller)
    (target : String) (action : Handle → StateT Manager m α) :
    StateT HubProvider m (Except FleetError α) := do
  let p ← get
  let target := if target.isEmpty then p.defaultTarget else target
  match p.seatOf target with
  | .error e => pure (.error e)
  | .ok (seat, p) =>
      set p
      match ← StateT.lift (p.exchangeFor exchange caller target) with
      | .error e => pure (.error e)
      | .ok caller => onSeat seat (Manager.withHandle caller action)

/-! ## Watching -/

/-- Lists the clusters. -/
def relist [Network m] : StateT HubProvider m (Except CallError (Membership.Effect Manager)) := do
  match ← onSeat .hub (Manager.onClient (clusterResource.list Client.send)) with
  | .error e => pure (.error e)
  | .ok list => modifyGet fun p =>
      let (effect, membership) := p.membership.relist list
      (.ok effect, { p with membership })

/-- Reloads if that is to be done.  What is to be closed has been let go of already. -/
def carryOut (reload : m Bool) (effect : Membership.Effect Manager) : StateT HubProvider m Unit :=
  if effect.reloads then do let _ ← reload else pure ()

/-- Lists the clusters anew, and says whether that succeeded. -/
def resync [Network m] (reload : m Bool) : StateT HubProvider m Bool := do
  match ← relist with
  | .ok effect =>
      carryOut reload effect
      pure true
  | .error _ =>
      modify fun p => { p with membership := p.membership.forgetVersion }
      pure false

/-- Follows the lines of a stream to its end. -/
def follow (reload : m Bool) : List WatchLine → StateT HubProvider m Membership.Ending
  | [] => pure .clean
  | line :: lines => do
      match (← get).membership.deliver line with
      | .error ending => pure ending
      | .ok (effect, membership) =>
          modify fun p => { p with membership }
          carryOut reload effect
          follow reload lines

/-- Waits after a failure before the next stream is opened. -/
def backOff [Network m] : StateT HubProvider m Unit := do
  let now ← Clock.now
  modify fun p =>
    let (delay, membership) := p.membership.fail
    { p with membership, watch := .opening (Limiter.nextMilli (Nanos.ofMillis now + delay)) }

/-- Opens the next stream at once. -/
def openNow [Network m] : StateT HubProvider m Unit := do
  let now ← Clock.now
  modify fun p => { p with watch := .opening now }

/-- What comes after the end of a stream. -/
def goOn [Network m] (reload : m Bool) : Membership.Ending → StateT HubProvider m Unit
  | .clean => openNow
  | .failed => backOff
  | .expired => do if ← resync reload then openNow else backOff

/-- Opens a stream of changes and follows it. -/
def turnWatch [Network m] (reload : m Bool) : StateT HubProvider m Unit := do
  let version := (← get).topology.version
  let opened ← match clusterResource.watchRequest? watchSeconds version with
    | none => pure (.error .unaskable)
    | some r => onSeat .hub (Manager.onClient (Client.listen r))
  match opened with
  | .error _ => backOff
  | .ok none => modify fun p => { p with watch := .silent }
  | .ok (some reply) => goOn reload (← follow reload (WatchLine.ofReply reply))

/-- Begins to watch the state of the hub and the changes of its clusters.  The latter is
begun only once, and not after the provider was closed. -/
def startWatching (now : Nat) (p : HubProvider) : HubProvider :=
  let p := { p with hub := p.hub.watch p.env.watchSettings }
  if p.topology.isWatched then p
  else
    { p.setTopology { p.topology with isWatched := true } with
      watch := if p.isClosed then .idle else .opening now }

/-- What is due next. -/
inductive Due where
  /-- The watcher of the hub's state. -/
  | hub
  /-- The next stream of changes. -/
  | stream
deriving DecidableEq, Repr

/-- What is due next, and when. -/
def due? (now : Nat) (p : HubProvider) : Option (Due × Nat) :=
  let hub := (p.hub.watcher?.bind (·.due? now)).map fun time => (Due.hub, time)
  let stream := match p.watch with
    | .opening time => some (Due.stream, max now time)
    | _ => none
  match hub, stream with
  | some (_, a), some (_, b) => if a ≤ b then hub else stream
  | some _, none => hub
  | none, _ => stream

/-- Does everything that is due up to a time, in at most `limit` turns. -/
def runTo [Network m] (reload : m Bool) (time : Nat) : Nat → StateT HubProvider m Unit
  | 0 => pure ()
  | limit + 1 => do
      match (← get).due? (← Clock.now) with
      | none => pure ()
      | some (due, at?) =>
          if time < at? then pure ()
          else
            Clock.waitUntil at?
            match due with
            | .hub => onSeat .hub (Manager.runTo reload at? 1)
            | .stream => turnWatch reload
            runTo reload time limit

/-- Closes the provider: the stream of changes, the managers of the clusters, and that of
the hub. -/
def close (p : HubProvider) : HubProvider :=
  { p.setTopology p.topology.drain.2 with watch := .idle, isClosed := true, hub := p.hub.close }

/-! ## Creation -/

/-- The provider for a hub that has a manager. -/
def ofHub [Network m] (env : Environment) (strategy : String) (hub : Manager) :
    m (Except FleetError HubProvider) := do
  let table := (hub.settings.hub? strategy).getD {}
  let (checked, hub) ← (Manager.onClient checkHub).run hub
  match checked with
  | .error e => pure (.error e)
  | .ok () =>
      let (host, hub) ← match table.proxyHost with
        | some host => pure (.ok host, hub)
        | none => (Manager.onClient findProxy).run hub
      match host with
      | .error e => pure (.error e)
      | .ok proxyHost =>
          match ← relist.run { env, strategy, table, proxyHost, hub } with
          | (.error e, _) => pure (.error (.call e))
          | (.ok _, p) => pure (.ok p)

/-- The provider of a strategy: the hub is one of a kubeconfig, or the cluster that the
gate runs in. -/
def create [Network m] (env : Environment) (settings : Settings) (validators : List ValidatorKind)
    (strategy : String) : m (Except FleetError HubProvider) :=
  let hub :=
    if strategy == Strategy.hubKubeconfig then
      Manager.load env settings validators settings.kubeconfigPath
    else if !env.runsInCluster then
      .error (.strategy ("server must be deployed in cluster for the " ++ strategy ++
        " ClusterProviderStrategy"))
    else Manager.ofPod env settings validators
  match hub with
  | .error e => pure (.error e)
  | .ok hub => ofHub env strategy hub

end HubProvider

end FleetGate
