import FleetGate.ClusterState
import FleetGate.Connection
import FleetGate.Files

/-!
# The environment

What the gate finds around it when it starts: files, and the values of a few
environment variables.
-/

namespace FleetGate

/-- What the gate finds around it. -/
structure Environment where
  /-- The files. -/
  files : Files
  /-- A list of kubeconfigs between colons. -/
  kubeconfigs : Option String := none
  /-- The home directory. -/
  home : Option String := none
  /-- Whether the gate runs in a cluster. -/
  runsInCluster : Bool := false
  /-- The calls that a client may start in a second. -/
  qps : Option String := none
  /-- The calls that a client may start at once. -/
  burst : Option String := none
  /-- From one poll of a cluster's state to the next. -/
  poll : Option String := none
  /-- How long a cluster's state must have settled. -/
  window : Option String := none
deriving Repr, Inhabited

namespace Environment

/-- The environment of files and variables.  A pod knows its cluster by two of them. -/
def ofVariables (files : Files) (vars : String → Option String) : Environment where
  files := files
  kubeconfigs := vars "KUBECONFIG"
  home := (vars "HOME").filter (!·.isEmpty)
  runsInCluster :=
    (vars "KUBERNETES_SERVICE_HOST").isSome && (vars "KUBERNETES_SERVICE_PORT").isSome
  qps := vars "KUBE_CLIENT_QPS"
  burst := vars "KUBE_CLIENT_BURST"
  poll := vars "CLUSTER_STATE_POLL_INTERVAL_MS"
  window := vars "CLUSTER_STATE_DEBOUNCE_WINDOW_MS"

/-- The client for a connection, with what the environment says of its rate. -/
def client (env : Environment) (c : Connection) : ClientConfig :=
  (ClientConfig.ofConnection c).withTexts env.qps env.burst

/-- How the state of clusters is watched. -/
def watchSettings (env : Environment) : WatchSettings := .ofTexts env.poll env.window

end Environment

end FleetGate
