import FleetGate.DenyList
import FleetGate.FleetError
import FleetGate.Http
import FleetGate.ResourcePath

/-!
# The gate

A request passes the gate before it reaches an API server.  What may pass is
settled by a policy: a way to map a resource to its kind, a deny list, and
validators in order, which may be switched off.

* A path that is no resource path passes.
* A resource whose kind is not known does not pass, nor does a kind on the deny
  list.
* What is left passes if validation is off, if there are no validators, if the
  request only asks what its caller may do, or if its method has no verb.
* Otherwise every validator must accept.  The body is read for them first if the
  method is one that sends a body.

The gate changes nothing in what it lets pass, and it waits for the service behind it
only then.  The definitions work in any monad, since mapping and validating may
themselves call an API server.
-/

namespace FleetGate

/-- What a validator looks at. -/
structure Subject where
  /-- The resource. -/
  gvr : Gvr
  /-- Its kind. -/
  gvk : Gvk
  /-- What is to be done. -/
  verb : String
  /-- The namespace. -/
  ns? : Option String := none
  /-- The name of the object. -/
  name? : Option String := none
  /-- The subresource of the object. -/
  subresource? : Option String := none
  /-- The body, if it was read. -/
  body? : Option (List UInt8) := none
deriving DecidableEq, Repr, Inhabited

/-- What a request is about, once its kind and its verb are known. -/
def ResourcePath.subject (p : ResourcePath) (gvk : Gvk) (verb : String)
    (body? : Option (List UInt8)) : Subject :=
  ⟨p.gvr, gvk, verb, p.ns?, p.name?, p.subresource?, body?⟩

/-- A check that a request must pass. -/
structure Validator (m : Type → Type) where
  /-- Its name. -/
  name : String
  /-- Accepts or refuses. -/
  check : Subject → m (Except AccessError Unit)

/-- A service behind the gate. -/
structure Service (m : Type → Type) (α : Type) where
  /-- Waits until the service can take a request, or says why it cannot. -/
  ready : m (Except String Unit)
  /-- Takes a request. -/
  call : HttpRequest → m (Except CallError α)

/-- Hands a request to a service once it is ready. -/
def Service.take {m : Type → Type} [Monad m] {α : Type} (s : Service m α) (r : HttpRequest) :
    m (Except CallError α) := do
  match ← s.ready with
  | .error reason => pure (.error (.service reason))
  | .ok () => s.call r

/-- What may pass the gate. -/
structure Policy (m : Type → Type) where
  /-- Maps a resource to its kind. -/
  kindFor : Gvr → m (Except AccessError Gvk)
  /-- The deny list. -/
  denied : List Gvk
  /-- The validators, in order. -/
  validators : List (Validator m)
  /-- Whether the validators are asked. -/
  validates : Bool

namespace Policy

variable {m : Type → Type} [Monad m]

/-- The body that validators see.  Methods that send no body have none. -/
def bodyFor (r : HttpRequest) : Except AccessError (Option (List UInt8)) :=
  if r.method.hasBody then
    match r.body with
    | .bytes content => .ok (some content)
    | .unreadable reason => .error (.transport ("failed to read request body: " ++ reason))
  else .ok none

/-- Asks validators in order, up to the first that refuses. -/
def validate (subject : Subject) : List (Validator m) → m (Except AccessError Unit)
  | [] => pure (.ok ())
  | v :: vs => do
      match ← v.check subject with
      | .ok () => validate subject vs
      | .error e => pure (.error e)

/-- Whether a request passes without being validated, when its kind is allowed. -/
def isExempt (p : Policy m) (path : ResourcePath) (r : HttpRequest) : Bool :=
  !p.validates || p.validators.isEmpty || path.isSelfReview r.method

/-- Has a request for a resource of a kind validated, if its method has a verb. -/
def review (p : Policy m) (path : ResourcePath) (gvk : Gvk) (r : HttpRequest) :
    m (Except AccessError Unit) :=
  match r.method.verb? path.isCollection with
  | none => pure (.ok ())
  | some verb =>
      match bodyFor r with
      | .error e => pure (.error e)
      | .ok body? => validate (path.subject gvk verb body?) p.validators

/-- Decides on a request for a resource. -/
def judgeResource (p : Policy m) (path : ResourcePath) (r : HttpRequest) :
    m (Except AccessError Unit) := do
  match ← p.kindFor path.gvr with
  | .error e => pure (.error e)
  | .ok gvk =>
      match DenyList.check p.denied gvk with
      | .error e => pure (.error e)
      | .ok () => if p.isExempt path r then pure (.ok ()) else p.review path gvk r

/-- Decides on a request. -/
def judge (p : Policy m) (r : HttpRequest) : m (Except AccessError Unit) :=
  match ResourcePath.parse? r.target.path with
  | none => pure (.ok ())
  | some path => p.judgeResource path r

/-- Lets a request pass to a service, or refuses it. -/
def guard {α : Type} (p : Policy m) (service : Service m α) (r : HttpRequest) :
    m (Except CallError α) := do
  match ← p.judge r with
  | .ok () => service.take r
  | .error e => pure (.error (.refused e))

end Policy

end FleetGate
