import FleetGate.Manager
import FleetGate.Report.Failures
import FleetGate.Report.Settings

/-!
# Reports of clients and clusters

Clients, kubeconfigs, handles, the owners of tokens and the state of a manager, as
values.
-/

namespace FleetGate.Report

/-- A count of milliseconds, or none. -/
def ofMillis : Option Nat → Json := ofOption fun n => .int n

/-- What a client is made from. -/
def ofClientConfig (c : ClientConfig) : Json :=
  let k := c.connection
  Json.object [
    ("url", .str k.address.text), ("namespace", .str k.ns), ("insecure", .bool k.insecure),
    ("root_cert", ofOption (fun cs => .ofTexts (cs.map Text.Utf8.decodeLossy)) k.authorities),
    ("tls_server_name", .ofText? k.tlsServerName), ("proxy_url", .ofText? (k.proxy.map Uri.text)),
    ("timeouts_ms", Json.object [("connect", ofMillis k.connectTimeout),
      ("read", ofMillis k.readTimeout), ("write", ofMillis k.writeTimeout)]),
    ("auth", k.credentials.toJson), ("token", .ofText? k.credentials.token), ("headers", .int 0),
    ("qps_bits", .str (hexText 8 (Numeric.binary32.toBits c.qps))), ("burst", .int c.burst),
    ("user_agent", .str c.userAgent)]

/-- A kubeconfig without its secrets.  An entry without content is only its name. -/
def ofKubeconfig (k : Kubeconfig) : Json :=
  Json.object [("current", .ofText? k.current),
    ("contexts", .arr (k.contexts.map fun c => match c.entry with
      | some e => Json.object [("name", .str c.name), ("cluster", .str e.cluster),
          ("user", .ofText? e.user), ("namespace", .ofText? e.ns)]
      | none => .obj [("name", .str c.name)])),
    ("clusters", .arr (k.clusters.map fun c => match c.entry with
      | some e => Json.object [("name", .str c.name), ("server", .ofText? e.server),
          ("insecure", ofOption .bool e.insecure)]
      | none => .obj [("name", .str c.name)])),
    ("users", .ofTexts (k.users.map (·.name)))]

/-- A handle and its kubeconfig. -/
def ofHandle (h : Handle) (k : Kubeconfig) : Json :=
  Json.object [("derived", .bool h.isDerived), ("kubeconfig", ofKubeconfig k)]

/-- The owner of a token. -/
def ofIdentity (i : TokenIdentity) : Json :=
  Json.object [("username", .str i.username), ("uid", .str i.uid), ("groups", .ofTexts i.groups),
    ("audiences", .ofTexts i.audiences)]

/-- The state of a manager. -/
def ofManager (g : Manager) : Json :=
  Json.object [("context", .str g.currentContext), ("in_cluster", .bool g.inCluster),
    ("closed", .bool g.isClosed), ("watches", .bool g.watches), ("debug", .str g.describe)]

/-- The state of a cluster. -/
def ofClusterState (s : ClusterState) : Json :=
  Json.object [("groups", .ofTexts s.groups), ("openshift", .bool s.openshift)]

/-- An object of any kind. -/
def ofObject (o : ApiObject) : Json :=
  Json.object [("name", .ofText? o.name?), ("data", o.data)]

/-- What a call on a fleet comes to. -/
def ofResult {α : Type} (item : α → Json) : Except FleetError α → Json
  | .ok a => item a
  | .error e => ofFleetError e

end FleetGate.Report
