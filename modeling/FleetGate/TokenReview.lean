import FleetGate.Api.Call
import FleetGate.Api.Shape

/-!
# Token reviews

A server can be asked who the owner of a token is.  A token is accepted only if
the answer has a status and the status says that it is authenticated.
-/

namespace FleetGate

/-- The owner of a token. -/
structure TokenIdentity where
  /-- The name of the user. -/
  username : String := ""
  /-- What tells users of one name apart. -/
  uid : String := ""
  /-- The groups of the user. -/
  groups : List String := []
  /-- Whom the token is for. -/
  audiences : List String := []
deriving DecidableEq, Repr, Inhabited

namespace TokenReview

open Api

/-- The version of the group of token reviews. -/
def apiVersion : String := "authentication.k8s.io/v1"

/-- The kind of a token review. -/
def kind : String := "TokenReview"

/-- Where token reviews are posted. -/
def path : String := "/apis/authentication.k8s.io/v1/tokenreviews"

/-- What is asked of a server. -/
def question (token : String) (audience : Option String) : Json :=
  Json.objectOf [("audiences", audience.map fun a => .ofTexts [a]), ("token", some (.str token))]

/-- A token review as it is posted. -/
def toJson (token : String) (audience : Option String) : Json :=
  Json.object [("apiVersion", .str apiVersion), ("kind", .str kind), ("metadata", .obj []),
    ("spec", question token audience)]

/-- The shape of a token review. -/
def shape : Shape :=
  .typed apiVersion kind [("metadata", .objectMeta),
    ("spec", .record [("audiences", .list .text), ("token", .text)]),
    ("status", .record [("audiences", .list .text), ("authenticated", .bool), ("error", .text),
      ("user", .record [("extra", .map (.list .text)), ("groups", .list .text), ("uid", .text),
        ("username", .text)])])]

/-- The answer of a server. -/
structure Answer where
  /-- Whether the token is accepted. -/
  authenticated : Bool
  /-- Why it is not. -/
  error : Option String
  /-- Its owner. -/
  identity : TokenIdentity
deriving DecidableEq, Repr, Inhabited

/-- The answer in a status. -/
def answerOf (status : Json) : Answer :=
  let user := (status.field? "user").getD .null
  { authenticated := ((status.field? "authenticated").bind Json.bool?).getD false
    error := (status.field? "error").bind Json.str?
    identity := {
      username := textField "username" user, uid := textField "uid" user
      groups := textsField "groups" user, audiences := textsField "audiences" status } }

/-- The answer in a token review, if it has a status. -/
def answer : Wanted (Option Answer) := fun draft =>
  (shape.wanted draft).map fun j => (j.present? "status").map answerOf

/-- The owner of a token, or why the token is not accepted. -/
def decide : Option Answer → Except String TokenIdentity
  | none => .error "empty token review status"
  | some a =>
      if a.authenticated then .ok a.identity else .error (a.error.getD "token not authenticated")

variable {m : Type → Type} [Monad m]

/-- Asks a server for the owner of a token. -/
def verify (call : Call m) (token : String) (audience : Option String) :
    m (Except FleetError TokenIdentity) := do
  match ← Api.post call answer path (toJson token audience) with
  | .error e => pure (.error (.call e))
  | .ok answer => match decide answer with
      | .error reason => pure (.error (.tokenRejected reason))
      | .ok identity => pure (.ok identity)

end TokenReview

end FleetGate
