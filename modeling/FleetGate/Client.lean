import FleetGate.AccessReview
import FleetGate.Config.Settings
import FleetGate.Discovery
import FleetGate.Limiter
import FleetGate.Network
import FleetGate.Registry
import FleetGate.Route
import FleetGate.SchemaCheck

/-!
# Clients

A client sends requests to one API server through the gate.  Every request gets the
name of the client, waits until the limit lets it start, passes the gate, and leaves
by the client's route.

The gate itself asks the server: for its groups and resources, for reviews of access,
and for the definitions of its kinds.  These calls go through the same client, limit
and gate included.  They nest at most twice: a request may cause a review, and a
review may cause a discovery, whose paths are no resource paths.  So `sendAt` counts
down the calls that may still nest, and `send` begins with two.
-/

namespace FleetGate

open Api

/-- What the gate of a client goes by. -/
structure Rules where
  /-- The deny list. -/
  denied : List Gvk := []
  /-- Whether the validators are asked. -/
  validates : Bool := false
  /-- The validators, in order. -/
  validators : List ValidatorKind := []
deriving DecidableEq, Repr, Inhabited

/-- The rules that settings lay down. -/
def Config.Settings.rules (s : Settings) (validators : List ValidatorKind) : Rules :=
  ⟨s.denied, s.validationEnabled, validators⟩

/-- A client and all that it remembers. -/
structure Client where
  /-- What the client was made from. -/
  config : ClientConfig
  /-- Where requests go. -/
  route : Route
  /-- What the gate goes by. -/
  rules : Rules
  /-- How many calls may start. -/
  limiter : Limiter
  /-- What the server serves, as far as it is known. -/
  discovery : DiscoveryCache := none
  /-- The definitions of the server's kinds, as far as they are known. -/
  schemas : SchemaCache := .start SchemaCache.standardTtl
deriving Inhabited

namespace Client

/-- The text that describes whether validators have a client to ask with. -/
def describeBinding (bound : Bool) : String :=
  "ClientCell \x7b bound: " ++ (if bound then "true" else "false") ++ " \x7d"

/-- A client with a route.  It breaks down if its rate makes no limit. -/
def onRoute (config : ClientConfig) (rules : Rules) (route : Route) : Except ClientFlaw Client :=
  match config.limit? with
  | none => .error (.breakdown "the rate makes no limit")
  | some limit => .ok { config, route, rules, limiter := .start limit 0 }

/-- A client of a service at hand. -/
def atHand (config : ClientConfig) (rules : Rules) : Except ClientFlaw Client :=
  onRoute config rules .atHand

/-- A client of the server that its configuration names. -/
def connect (fs : Files) (config : ClientConfig) (rules : Rules) : Except ClientFlaw Client := do
  onRoute config rules (← Route.ofConnection fs config.connection)

/-- The name that a client sends.  One that no header can hold is replaced. -/
def agent (c : Client) : String :=
  if isHeaderValue c.config.userAgent then c.config.userAgent else ClientConfig.serverName

variable {m : Type → Type} [Monad m] [Network m]

/-- Waits until the limit lets a call start. -/
def start : StateT Client m Unit := do
  let c ← get
  let time := c.limiter.startTime (← Clock.now)
  Clock.waitUntil time
  set { c with limiter := c.limiter.take time }

/-- Sends a request by the route of the client. -/
def deliver {α : Type} (exchange : HttpRequest → m (Except String α)) (r : HttpRequest) :
    StateT Client m (Except CallError α) := do
  match (← get).route.prepare r with
  | .error reason => pure (.error (.service reason))
  | .ok r => match ← exchange r with
      | .error reason => pure (.error (.service reason))
      | .ok a => pure (.ok a)

/-- The service behind the gate of the client, which is always ready. -/
def outlet {α : Type} (exchange : HttpRequest → m (Except String α)) :
    Service (StateT Client m) α :=
  ⟨pure (.ok ()), deliver exchange⟩

/-- The kind of a resource. -/
def kindAt (call : Call (StateT Client m)) (gvr : Gvr) :
    StateT Client m (Except AccessError Gvk) := do
  let (kind, cache) ← (← get).discovery.kindFor (some call) gvr
  modify fun c => { c with discovery := cache }
  pure kind

/-- A validator that asks by calls. -/
def validatorAt (call : Call (StateT Client m)) : ValidatorKind → Validator (StateT Client m)
  | .rbac => ⟨ValidatorKind.rbac.name, AccessReview.check (some call)⟩
  | .schema => ⟨ValidatorKind.schema.name, fun s => do
      let (answer, cache) ←
        SchemaCheck.check (some call) Clock.now s (← get).schemas
      modify fun c => { c with schemas := cache }
      pure answer⟩

/-- The policy of the gate, which asks by calls. -/
def policyAt (call : Call (StateT Client m)) (rules : Rules) : Policy (StateT Client m) where
  kindFor := kindAt call
  denied := rules.denied
  validators := rules.validators.map (validatorAt call)
  validates := rules.validates

/-- Lets a request start, passes it through the gate and delivers it. -/
def pass {α : Type} (call : Call (StateT Client m)) (exchange : HttpRequest → m (Except String α))
    (r : HttpRequest) : StateT Client m (Except CallError α) := do
  start
  let c ← get
  (policyAt call c.rules).guard (outlet exchange) (r.setHeader "user-agent" c.agent)

/-- Sends a request that may cause so many calls within each other. -/
def sendAt : Nat → Call (StateT Client m)
  | 0 => pass (fun _ => pure (.error .unaskable)) Network.send
  | depth + 1 => pass (sendAt depth) Network.send

/-- Sends a request and waits for the reply. -/
def send : Call (StateT Client m) := sendAt 2

/-- Opens a stream of changes and waits for its end. -/
def listen (r : HttpRequest) : StateT Client m (Except CallError (Option HttpReply)) :=
  pass (sendAt 1) Network.listen r

/-- The kind of a resource. -/
def kindFor (gvr : Gvr) : StateT Client m (Except AccessError Gvk) := kindAt send gvr

/-- What the server serves. -/
def discover : StateT Client m (Except AccessError Discovery) := do
  let (found, cache) ← (← get).discovery.snapshot (some send)
  modify fun c => { c with discovery := cache }
  pure found

/-- Forgets what the server serves. -/
def forget : StateT Client m Unit :=
  modify fun c => { c with discovery := DiscoveryCache.reset }

/-- The state of the server's API surface. -/
def capture : StateT Client m (Except CallError ClusterState) := do
  match ← Api.get send Discovery.apiGroups "/apis" with
  | .error e => pure (.error e)
  | .ok groups => pure (.ok (.ofGroups groups))

end Client

end FleetGate
