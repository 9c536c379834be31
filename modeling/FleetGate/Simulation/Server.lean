import FleetGate.AccessReview
import FleetGate.TokenReview

/-!
# A server that answers from tables

To rehearse what the gate does, a simulated API server stands in for a real one.  It
answers a request by the first of these that has an answer:

* a reply that is laid down for everything,
* replies that are laid down for a method and a path,
* rules for reviews of access, of which the first that matches counts, and which
  allow what none matches,
* a table of tokens for reviews of tokens,
* a document with the definitions of its kinds,
* discovery, from the list of its resources,
* a table of texts by path.

Whatever is left is not found.
-/

namespace FleetGate.Simulation

open Api

/-- A resource of a simulated server. -/
structure Served where
  /-- Its kind. -/
  kind : Gvk
  /-- Its plural name. -/
  plural : String
  /-- Whether its objects are in namespaces. -/
  namespaced : Bool
deriving DecidableEq, Repr, Inhabited

/-- A rule for reviews of access. -/
structure ReviewRule where
  /-- The attributes that a review must have. -/
  conditions : Fields Json
  /-- The status code of the reply. -/
  code : Nat
  /-- Whether it allows, if it says so. -/
  allowed? : Option Json
  /-- A body in place of one that says so. -/
  body? : Option String
deriving Inhabited

/-- A simulated server. -/
structure Server where
  /-- The reply to everything, if there is one. -/
  always? : Option HttpReply := none
  /-- What it serves, in order. -/
  served : List Served := []
  /-- Texts by path. -/
  objects : Fields String := []
  /-- Replies by a method and a path with a blank between them. -/
  replies : Fields HttpReply := []
  /-- The rules for reviews of access, in order. -/
  reviews : List ReviewRule := []
  /-- What is known of tokens, or nothing to say. -/
  tokens : Fields (Option Json) := []
  /-- The document with the definitions of its kinds. -/
  definitions? : Option String := none
deriving Inhabited

namespace Server

/-- A reply with a value. -/
def jsonReply (code : Nat) (j : Json) : HttpReply := .ofText code j.render

/-- An object that says what it is. -/
def typed (apiVersion kind : String) (fields : List (String × Option Json)) : Json :=
  Json.objectOf (("apiVersion", some (.str apiVersion)) :: ("kind", some (.str kind)) :: fields)

/-- The reply for a path at which there is nothing. -/
def notFound (path : String) : HttpReply :=
  jsonReply 404 (typed "v1" "Status" [("metadata", some (.obj [])),
    ("status", some (.str "Failure")), ("message", some (.str (path ++ " not found"))),
    ("reason", some (.str "NotFound")), ("code", some (.int 404))])

/-! ## Discovery -/

/-- The listing of a version of a group. -/
def listing (groupVersion : String) (found : List Served) : Json :=
  typed "v1" "APIResourceList" [("groupVersion", some (.str groupVersion)),
    ("resources", some (.arr (found.map fun s => Json.object [("name", .str s.plural),
      ("kind", .str s.kind.kind), ("singularName", .str ""), ("verbs", .arr []),
      ("namespaced", .bool s.namespaced)])))]

/-- A version in the list of groups. -/
def versionEntry (group version : String) : Json :=
  Json.object [("groupVersion", .str (group ++ "/" ++ version)), ("version", .str version)]

/-- The list of groups. -/
def groupList (s : Server) : Json :=
  let kinds := (s.served.map (·.kind)).filter (!·.group.isEmpty)
  typed "v1" "APIGroupList" [("groups", some (.arr
    ((kinds.map (·.group)).eraseDups.map fun group =>
      let versions := ((kinds.filter (·.group == group)).map (·.version)).eraseDups
      Json.objectOf [("name", some (.str group)),
        ("versions", some (.arr (versions.map (versionEntry group)))),
        ("preferredVersion", versions.head?.map (versionEntry group))])))]

/-- What discovery has at a path.  The inner `none` stands for a version that is not
served, and the outer for a path that is none of discovery. -/
def discovery? (s : Server) (path : String) : Option (Option Json) :=
  match path.splitOn "/" with
  | ["", "api"] => some (some (typed "v1" "APIVersions" [("versions", some (.ofTexts ["v1"])),
      ("serverAddressByClientCIDRs", some (.arr []))]))
  | ["", "apis"] => some (some s.groupList)
  | ["", "api", version] => some (some (listing version
      (s.served.filter fun r => r.kind.group.isEmpty && r.kind.version == version)))
  | ["", "apis", group, version] =>
      let found := s.served.filter fun r => r.kind.group == group && r.kind.version == version
      some (if found.isEmpty then none else some (listing (group ++ "/" ++ version) found))
  | _ => none

/-! ## Reviews -/

/-- The value of a body. -/
def valueOf (body : Body) : Json :=
  match body with
  | .bytes content => (Json.ofBytes? content).getD .null
  | .unreadable _ => .null

/-- The attributes of a posted review of access. -/
def attributesOf (body : Body) : Json :=
  (((valueOf body).field? "spec").bind (·.field? "resourceAttributes")).getD .null

/-- What a posted review of a token asks. -/
def questionOf (body : Body) : Json := ((valueOf body).field? "spec").getD .null

/-- Whether a rule is for a review with some attributes. -/
def ReviewRule.fits (attributes : Json) (rule : ReviewRule) : Bool :=
  rule.conditions.all fun (key, v) => attributes.field? key == some v

/-- A review of access as it comes back. -/
def reviewAnswer (allowed? : Option Json) : Json :=
  typed AccessReview.apiVersion AccessReview.kind [("metadata", some (.obj [])),
    ("spec", some (.obj [])), ("status", allowed?.map fun a => Json.object [("allowed", a)])]

/-- The reply to a review of access. -/
def reviewReply (s : Server) (attributes : Json) : HttpReply :=
  match s.reviews.find? (ReviewRule.fits attributes) with
  | none => jsonReply 201 (reviewAnswer (some (.bool true)))
  | some rule => match rule.body? with
      | some body => .ofText rule.code body
      | none => jsonReply rule.code (reviewAnswer rule.allowed?)

/-- The reply to a review of a token.  A token that is not in the table is not
authenticated. -/
def tokenReply (s : Server) (question : Json) : HttpReply :=
  let status := match Fields.get? (textField "token" question) s.tokens with
    | some status => status
    | none => some (Json.object [("authenticated", .bool false)])
  jsonReply 201 (typed TokenReview.apiVersion TokenReview.kind
    [("metadata", some (.obj [])), ("spec", some (.obj [])), ("status", status)])

/-! ## Replies -/

/-- Whether a request is a review of access. -/
def isAccessReview (r : HttpRequest) : Bool :=
  r.method == .post && r.target.path == AccessReview.path

/-- Whether a request is a review of a token. -/
def isTokenReview (r : HttpRequest) : Bool :=
  r.method == .post && r.target.path == TokenReview.path

/-- The reply that is laid down for a request. -/
def laidDown? (s : Server) (r : HttpRequest) : Option HttpReply :=
  s.always?.or (Fields.get? (r.method.name ++ " " ++ r.target.path) s.replies)

/-- Whether a request is one of discovery. -/
def isDiscovery (s : Server) (r : HttpRequest) : Bool :=
  r.method == .get && (s.discovery? r.target.path).isSome

/-- The reply to a request. -/
def reply (s : Server) (r : HttpRequest) : HttpReply :=
  let path := r.target.path
  let stored := match Fields.get? path s.objects with
    | some text => .ofText 200 text
    | none => notFound path
  match s.laidDown? r with
  | some reply => reply
  | none =>
      if isAccessReview r then s.reviewReply (attributesOf r.body)
      else if isTokenReview r then s.tokenReply (questionOf r.body)
      else match s.definitions?.filter fun _ => path == "/openapi/v2" with
        | some document => .ofText 200 document
        | none =>
            if r.method == .get then
              match s.discovery? path with
              | some (some j) => jsonReply 200 j
              | _ => stored
            else stored

end Server

end FleetGate.Simulation
