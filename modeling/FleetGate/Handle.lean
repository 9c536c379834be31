import FleetGate.ApiObject
import FleetGate.Client

/-!
# What can be done with a cluster

The calls that a tool makes on a cluster, once it has a client: send a request, map a
resource to its kind, list the groups, ask whether something is allowed, look at the
deny list, and get an object of any kind.

A `Handle` is what a caller gets of a cluster.  It either uses the cluster's own
client, or has a client that was derived for the caller.
-/

namespace FleetGate

open Api

/-- What a caller gets of a cluster. -/
inductive Handle where
  /-- The cluster's own client. -/
  | own
  /-- A client of the caller's own, and the kubeconfig that goes with it. -/
  | derived (client : Client) (kubeconfig : Kubeconfig)
deriving Inhabited

/-- Whether a handle was derived for a caller. -/
def Handle.isDerived : Handle → Bool
  | .own => false
  | .derived .. => true

namespace Client

variable {m : Type → Type} [Monad m] [Network m]

/-- Sends a request and waits for the text of the reply. -/
def request (r : HttpRequest) : StateT Client m (Except CallError String) := Api.text send r

/-- The kind of a resource, for those that do not care where a refusal comes from. -/
def resolveKind (gvr : Gvr) : StateT Client m (Except FleetError Gvk) := do
  return (← kindFor gvr).mapError .access

/-- The names of the groups that the server serves. -/
def groups : StateT Client m (Except FleetError (List String)) := do
  match ← discover with
  | .error e => pure (.error (.access e))
  | .ok found => pure (.ok found.names)

/-- Whether the owner of the client may do something. -/
def canI (verb : String) (gvr : Gvr) (ns? name? : Option String) : StateT Client m Bool :=
  AccessReview.canI send verb gvr ns? name?

/-- An object of any kind. -/
def object (r : ApiResource) (ns? : Option String) (name : String) :
    StateT Client m (Except CallError ApiObject) := r.get send ns? name

/-- Whether a kind is on the deny list. -/
def denies (kind : Gvk) (c : Client) : Bool := DenyList.denies c.rules.denied kind

end Client

end FleetGate
