import FleetGate.Provider
import FleetGate.Report.Clients
import FleetGate.Simulation.Trace

/-!
# Scenarios

A scenario is a list of steps that are taken in a simulated world, one after another:
on a handle, on a manager, or on a provider.  A step comes to a report or to a failure,
which is reported too.  A breakdown ends the scenario and leaves nothing but itself.

Beside what a step comes to, the scenario reports what was to be seen of it from
outside.
-/

namespace FleetGate.Simulation

open Report (kindOnly ofGvk ofAccessError ofCallError ofFleetError ofResult)

/-- What a step comes to. -/
abbrev Outcome := Except FleetError Json

/-- More turns than any scenario takes at a time. -/
def manyTurns : Nat := 1000000

/-! ## Handles -/

/-- A step on a handle. -/
inductive HandleStep where
  /-- Sends a request. -/
  | request (r : HttpRequest)
  /-- Asks for the kind of a resource as callers do. -/
  | kind (r : Gvr)
  /-- Asks for the kind of a resource as the gate does. -/
  | mappedKind (r : Gvr)
  /-- Asks for the groups. -/
  | groups
  /-- Asks whether something is allowed. -/
  | canI (r : AccessReview)
  /-- Asks whether a kind is denied. -/
  | denies (k : Gvk)
  /-- Asks for an object. -/
  | object (r : ApiResource) (ns? : Option String) (name : String)
  /-- Is no step at all. -/
  | malformed (name : String)
deriving Inhabited

/-- Takes a step on a handle. -/
def HandleStep.take : HandleStep → StateT Client Simulated Json
  | .request r => do
      match ← Client.request r with
      | .ok text => return Json.object [("ok", .str text)]
      | .error (.refused e) => return ofAccessError e
      | .error e => return ofCallError e
  | .kind r => do return ofResult ofGvk (← Client.resolveKind r)
  | .mappedKind r => do return ofResult ofGvk ((← Client.kindFor r).mapError .access)
  | .groups => do return ofResult Json.ofTexts (← Client.groups)
  | .canI r => do return .bool (← Client.canI r.verb r.gvr r.ns? r.name?)
  | .denies k => do return .bool ((← get).denies k)
  | .object r ns? name => do
      return ofResult Report.ofObject ((← Client.object r ns? name).mapError .call)
  | .malformed name => return kindOnly name

/-! ## Managers -/

/-- A step on a manager. -/
inductive ManagerStep where
  /-- A step on the manager's own handle. -/
  | onHandle (step : HandleStep)
  /-- Forgets what was discovered. -/
  | forget
  /-- Replaces the server. -/
  | serve (server : Server)
  /-- Derives a handle. -/
  | derive (caller : Caller)
  /-- Shows the kubeconfig to a caller. -/
  | view (minified : Bool)
  /-- Shows the kubeconfig. -/
  | kubeconfig
  /-- Shows the state of the manager. -/
  | state
  /-- Asks whether the cluster is an OpenShift cluster. -/
  | isOpenshift
  /-- Asks for the owner of a token. -/
  | verify (token : String) (audience : Option String)
  /-- Begins to watch. -/
  | watch
  /-- Closes the manager. -/
  | close
deriving Inhabited

/-- A handle of a manager, as callers see it. -/
def handleReport (h : Handle) : StateT Manager Simulated Json := do
  return Report.ofHandle h ((← get).kubeconfigOf h)

/-- Takes a step on a manager. -/
def ManagerStep.act : ManagerStep → StateT Manager Simulated Outcome
  | .onHandle step => do return .ok (← Manager.onClient step.take)
  | .forget => do
      Manager.onClient Client.forget
      return .ok .null
  | .serve server => do
      modifyThe World fun w => { w with server := server }
      return .ok .null
  | .derive caller => Manager.withHandle caller handleReport
  | .view minified => do return .ok (Report.ofKubeconfig ((← get).view minified))
  | .kubeconfig => do return .ok (Report.ofKubeconfig (← get).kubeconfig)
  | .state => do return .ok (Report.ofManager (← get))
  | .isOpenshift => do return .ok (.bool (← Manager.isOpenshift))
  | .verify token audience => do return (← Manager.verify token audience).map Report.ofIdentity
  | .watch => do
      modify (·.watch .standard)
      return .ok .null
  | .close => do
      modify Manager.close
      return .ok .null

/-- Takes a step on a manager.  What was begun in the background goes on while the step
waits for the server. -/
def ManagerStep.take (step : ManagerStep) : StateT Manager Simulated Outcome := do
  let outcome ← step.act
  let w ← getThe World
  unless w.arrivals.isEmpty do Manager.runTo (pure true) w.clock manyTurns
  return outcome

/-! ## Providers -/

/-- A step on a provider. -/
inductive ProviderStep where
  /-- Shows the provider. -/
  | describe
  /-- Derives a handle. -/
  | derive (caller : Caller) (target : String)
  /-- A step on a derived handle. -/
  | onHandle (caller : Caller) (target : String) (step : HandleStep)
  /-- Asks whether the cluster is an OpenShift cluster. -/
  | isOpenshift
  /-- Asks for the owner of a token. -/
  | verify (target token : String) (audience : Option String)
  /-- Closes the provider. -/
  | close
  /-- Begins to watch, with reloads that turn out as a script says. -/
  | watch (reloads : List Bool)
  /-- Lets replies wait for those who will listen to changes. -/
  | queue (replies : List HttpReply)
  /-- Replaces the server. -/
  | serve (server : Server)
  /-- Lets time pass. -/
  | pass (time : Nat)
  /-- Is no step at all. -/
  | malformed (name : String)
deriving Inhabited

/-- What a provider says of itself. -/
def providerReport (p : Provider) : Json :=
  Json.object [("strategy", .str p.strategy), ("parameter", .str p.parameter),
    ("targets", .ofTexts p.targets), ("default", .str p.defaultTarget)]

/-- Does everything that is due by now. -/
def runDue : StateT Provider Simulated Unit := do
  Provider.runTo reload (← getThe World).clock manyTurns

/-- Takes a step on a provider. -/
def ProviderStep.act (env : Environment) : ProviderStep → StateT Provider Simulated Outcome
  | .describe => do return .ok (providerReport (← get))
  | .derive caller target => Provider.withHandle exchange caller target handleReport
  | .onHandle caller target step =>
      Provider.withHandle exchange caller target fun h => Manager.onHandle h step.take
  | .isOpenshift => do return .ok (.bool (← Provider.isOpenshift))
  | .verify target token audience => do
      return (← Provider.verify target token audience).map Report.ofIdentity
  | .close => do
      modify Provider.close
      return .ok .null
  | .watch reloads => do
      modifyThe World fun w => { w with reloads := reloads, reloadCount := 0 }
      let now ← Clock.now
      modify (·.startWatching env now)
      return .ok .null
  | .queue replies => do
      modifyThe World fun w => { w with queue := w.queue ++ replies }
      return .ok .null
  | .serve server => do
      modifyThe World fun w => { w with server := server }
      return .ok .null
  | .pass time => do
      let deadline := (← getThe World).clock + time
      Provider.runTo reload deadline manyTurns
      Clock.waitUntil deadline
      return .ok .null
  | .malformed name => return .ok (kindOnly name)

/-- Takes a step on a provider, and then does everything that is due by now. -/
def ProviderStep.take (env : Environment) (step : ProviderStep) :
    StateT Provider Simulated Outcome := do
  let outcome ← step.act env
  runDue
  return outcome

/-- The clusters of a hub. -/
def topologyReport (p : HubProvider) : Json :=
  let t := p.topology
  Json.object [("proxy_host", .str p.proxyHost), ("resource_version", .str t.version),
    ("hub", .ofText? t.hub?), ("built", .ofTexts t.filled), ("watching", .bool t.isWatched)]

/-- What is to be seen of a provider at any time. -/
def providerView : Provider → List (String × Option Json)
  | .hub p => [("topology", some (topologyReport p)), ("targets", some (.ofTexts p.targets))]
  | _ => []

/-! ## Reloads and exchanges -/

/-- An exchange of a token. -/
def exchangeReport (t : Config.ExchangeTarget) (token : String) (realm : TokenExchange.Realm) :
    Json :=
  match Report.ofTarget t with
  | .obj fields => Json.object (fields ++ [("token", .str token), ("realm", .str realm.name)])
  | j => j

/-- The reloads and the exchanges that the records show. -/
def World.events (w : World) : List (String × Option Json) :=
  [("exchanged", unlessNone (w.exchanged.reverse.map fun (t, token, realm) =>
      exchangeReport t token realm)),
    ("reloads", unlessNone (w.reloaded.reverse.map fun (time, ok) =>
      .arr [.int time, .str "reload", .bool ok]))]

/-! ## Running a scenario -/

/-- Takes steps one after another, and reports what each comes to and what is to be seen
after it.  There are no reports if the program breaks down. -/
def rehearse {σ step : Type} (take : step → StateT σ Simulated Outcome)
    (shown : σ → World → List (String × Option Json)) (w : World) (s : σ) :
    List step → Option (List Json)
  | [] => some []
  | first :: rest =>
      let ((outcome, s), w) := ((take first).run s).run w.clear
      match outcome with
      | .error (.breakdown _) => none
      | outcome => do
          let reports ← rehearse take shown w s rest
          some (Json.objectOf (("result", some (ofResult id outcome)) :: shown s w) :: reports)

end FleetGate.Simulation
