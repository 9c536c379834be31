import FleetGate.Certificate
import FleetGate.Connection
import FleetGate.Kubeconfig.Reading
import FleetGate.Route

/-!
# From a kubeconfig to a connection

A context selects a cluster and a user.  The context is the one that is asked for, or
else the current one.  A user that is not there has no credentials.

A pod finds what it needs to reach its own cluster in three files.
-/

namespace FleetGate

namespace Kubeconfig

/-- The context of a name, which must say something. -/
def context? (k : Kubeconfig) (name : String) : Option ContextEntry :=
  (Named.find? name k.contexts).bind (·.entry)

/-- The cluster of a name, which must say something. -/
def cluster? (k : Kubeconfig) (name : String) : Option ClusterEntry :=
  (Named.find? name k.clusters).bind (·.entry)

/-- The credentials of a user. -/
def credentialsOf (k : Kubeconfig) (user : Option String) : Credentials :=
  ((user.bind fun name => Named.find? name k.users).bind (·.entry)).getD {}

/-- The name of the context to use. -/
def selected (k : Kubeconfig) (context : Option String) : Except String String :=
  match context.or k.current with
  | some name => .ok name
  | none => .error "failed to determine current context"

/-- The certificates of the authorities of a cluster. -/
def authorities (fs : Files) (c : ClusterEntry) : Except String (Option (List (List UInt8))) :=
  if c.authority.isNone && c.authorityData.isNone then .ok none
  else match Route.load? fs c.authorityData c.authority with
    | none => .error "failed to load certificate authority"
    | some text => match Certificate.bundle? text with
        | none => .error "failed to parse PEM-encoded certificates"
        | some certificates => .ok (some certificates)

/-- An address, or what is said if it is none: what cannot be read, and why. -/
def address (complaint text : String) : Except String Uri :=
  (Uri.parse text).mapError fun flaw => complaint ++ ": " ++ flaw.message

/-- The connection that a context stands for. -/
def connection (fs : Files) (k : Kubeconfig) (context : Option String) :
    Except String Connection := do
  let name ← k.selected context
  let some context := k.context? name | .error ("failed to load current context: " ++ name)
  let some cluster := k.cluster? context.cluster
    | .error ("failed to load the cluster of context: " ++ context.cluster)
  let some server := cluster.server | .error "cluster url is missing on selected cluster"
  let server ← address "failed to parse cluster url" server
  let authorities ← authorities fs cluster
  let proxy ← (cluster.proxyUrl.filter (!·.isEmpty)).mapM (address "failed to parse proxy url")
  pure {
    address := server
    ns := context.ns.getD "default"
    authorities
    insecure := cluster.insecure.getD false
    tlsServerName := cluster.tlsServerName
    proxy
    credentials := k.credentialsOf context.user }

end Kubeconfig

namespace Connection

/-- Where a pod finds what it needs to reach its own cluster. -/
def accountDir : String := "/var/run/secrets/kubernetes.io/serviceaccount"

/-- The name of a pod's own cluster. -/
def ownServer : Uri := ⟨some "https", some "kubernetes.default.svc", "/", none⟩

/-- The connection of a pod to its own cluster. -/
def ofPod (fs : Files) : Except String Connection := do
  let file (name : String) : String := accountDir ++ "/" ++ name
  let ns ← (fs.read (file "namespace")).mapError fun e =>
    "failed to read the default namespace: " ++ e.message
  let text ← (fs.read (file "ca.crt")).mapError fun e =>
    "failed to read root certificates: " ++ e.message
  let some authorities := Certificate.bundle? text | .error "failed to parse root certificates"
  pure {
    address := ownServer
    ns
    authorities := some authorities
    credentials := { tokenFile := some (file "token") } }

end Connection

end FleetGate
