import FleetGate.Api.Call
import FleetGate.Api.Shape
import FleetGate.Gate

/-!
# Access reviews

A server can be asked whether its caller may do something.  The question names
the verb, the resource and, as far as they are given, the namespace, the name and
the subresource.  The answer allows or does not, or has no status at all.

Two readers of answers differ when there is none.  `AccessReview.isAllowed` takes
that for no, and `AccessReview.decide` lets the request pass.
-/

namespace FleetGate

/-- What is asked of a server. -/
structure AccessReview where
  /-- What is to be done. -/
  verb : String
  /-- With which resource. -/
  gvr : Gvr
  /-- In which namespace. -/
  ns? : Option String := none
  /-- With which object. -/
  name? : Option String := none
  /-- With which subresource of it. -/
  subresource? : Option String := none
deriving DecidableEq, Repr, Inhabited

namespace AccessReview

open Api

/-- The review of what a request is about. -/
def ofSubject (s : Subject) : AccessReview := ⟨s.verb, s.gvr, s.ns?, s.name?, s.subresource?⟩

/-- The review of what a caller asks for, which is never a subresource. -/
def ofCaller (verb : String) (gvr : Gvr) (ns? name? : Option String) : AccessReview :=
  { verb, gvr, ns?, name? }

/-- The version of the group of reviews. -/
def apiVersion : String := "authorization.k8s.io/v1"

/-- The kind of a review. -/
def kind : String := "SelfSubjectAccessReview"

/-- Where reviews are posted. -/
def path : String := "/apis/authorization.k8s.io/v1/selfsubjectaccessreviews"

/-- The attributes of a review.  What is not given is left out. -/
def attributes (r : AccessReview) : Json :=
  Json.objectOf [("group", some (.str r.gvr.group)), ("name", r.name?.map .str),
    ("namespace", r.ns?.map .str), ("resource", some (.str r.gvr.resource)),
    ("subresource", r.subresource?.map .str), ("verb", some (.str r.verb)),
    ("version", some (.str r.gvr.version))]

/-- A review as it is posted. -/
def toJson (r : AccessReview) : Json :=
  Json.object [("apiVersion", .str apiVersion), ("kind", .str kind), ("metadata", .obj []),
    ("spec", .obj [("resourceAttributes", r.attributes)])]

/-- The shape of requirements on labels or fields. -/
def selectorShape : Shape :=
  .record [("rawSelector", .text), ("requirements", .list (.record [("key", .text),
    ("operator", .text), ("values", .list .text)]))]

/-- The shape of a review. -/
def shape : Shape :=
  .typed apiVersion kind [("metadata", .objectMeta),
    ("spec", .record [
      ("nonResourceAttributes", .record [("path", .text), ("verb", .text)]),
      ("resourceAttributes", .record [("fieldSelector", selectorShape), ("group", .text),
        ("labelSelector", selectorShape), ("name", .text), ("namespace", .text),
        ("resource", .text), ("subresource", .text), ("verb", .text), ("version", .text)])]),
    ("status", .record [("allowed", .bool), ("denied", .bool), ("evaluationError", .text),
      ("reason", .text)])]

/-- Whether an answer allows, if it has a status.  A status that does not say so
does not allow. -/
def answer : Wanted (Option Bool) := fun draft =>
  (shape.wanted draft).map fun j =>
    (j.present? "status").map fun s => ((s.field? "allowed").bind Json.bool?).getD false

variable {m : Type → Type} [Monad m]

/-- Asks a server. -/
def ask (call : Call m) (r : AccessReview) : m (Except CallError (Option Bool)) :=
  Api.post call answer path r.toJson

/-- Whether an answer is a clear yes. -/
def isAllowed : Except CallError (Option Bool) → Bool
  | .ok (some allowed) => allowed
  | _ => false

/-- Whether a caller may do something.  Without an answer it may not. -/
def canI (call : Call m) (verb : String) (gvr : Gvr) (ns? name? : Option String) : m Bool := do
  return isAllowed (← ask call (ofCaller verb gvr ns? name?))

/-- What a refusal calls the object of a request. -/
def objectName (s : Subject) : String :=
  match s.name? with
  | some name => s.gvr.qualified ++ "/" ++ name
  | none => s.gvr.qualified

/-- Refuses a request if the answer is a clear no. -/
def decide (s : Subject) : Except CallError (Option Bool) → Except AccessError Unit
  | .ok (some false) => .error (.permissionDenied s.verb (objectName s) s.ns?)
  | _ => .ok ()

/-- The check of a request by a review.  A request without a verb or a resource is
not reviewed, and neither is one before a client is bound. -/
def check (call? : Option (Call m)) (s : Subject) : m (Except AccessError Unit) :=
  if s.verb.isEmpty || s.gvr.resource.isEmpty then pure (.ok ())
  else match call? with
    | none => pure (.ok ())
    | some call => do return decide s (← ask call (ofSubject s))

end AccessReview

end FleetGate
