import FleetGate.Resource
import FleetGate.Text.Quoted

/-!
# Why a request is refused

A request that does not pass the gate fails with one of six causes.  The
wording of each is in `AccessError.message`.
-/

namespace FleetGate

/-- The cause of a refusal. -/
inductive AccessError where
  /-- Discovery knows no kind for the resource. -/
  | resourceNotFound (gvr : Gvr)
  /-- The kind is on the deny list. -/
  | resourceDenied (gvk : Gvk)
  /-- The server does not allow the caller to do this. -/
  | permissionDenied (verb resource : String) (ns : Option String)
  /-- The body does not conform to its schema. -/
  | invalidField (field message : String)
  /-- The resource could not be mapped to a kind. -/
  | mapper (text : String)
  /-- The body of the request could not be read. -/
  | transport (text : String)
deriving DecidableEq, Repr, Inhabited

namespace AccessError

/-- The wording of a refusal. -/
def message : AccessError → String
  | .resourceNotFound gvr =>
      "resource not found: the server doesn't have a resource type " ++ gvr.text
  | .resourceDenied gvk => "resource not allowed: " ++ gvk.text
  | .permissionDenied verb resource ns =>
      let scope := match ns with
        | some ns => if ns.isEmpty then "" else " in namespace " ++ Text.quoted ns
        | none => ""
      "permission denied: cannot " ++ verb ++ " " ++ resource ++ scope
  | .invalidField field text => "invalid field " ++ Text.quoted field ++ ": " ++ text
  | .mapper text => "failed to map resource: " ++ text
  | .transport text => "transport error: " ++ text

/-- Whether the resource is unknown. -/
def isNotFound : AccessError → Bool
  | .resourceNotFound _ => true
  | _ => false

/-- Whether the caller may not do this. -/
def isForbidden : AccessError → Bool
  | .resourceDenied _ | .permissionDenied .. => true
  | _ => false

end AccessError

end FleetGate
