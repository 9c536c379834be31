/-!
# Request methods

The verbs of access reviews follow from the method of a request and from
whether it addresses a collection.  Names of methods are case-sensitive, and a
name that is none of the usual ones is a method of its own as long as it is an
HTTP token.
-/

namespace FleetGate

/-- The method of a request. -/
inductive Method where
  | get
  | head
  | post
  | put
  | patch
  | delete
  /-- Any other method, by its name. -/
  | other (name : String)
deriving DecidableEq, Repr, Inhabited

namespace Method

/-- Whether a character may stand in an HTTP token. -/
def isTokenChar (c : Char) : Bool :=
  c.isAlphanum || "!#$%&\x27*+-.^_\x60|~".toList.contains c

/-- The name of a method. -/
def name : Method → String
  | .get => "GET"
  | .head => "HEAD"
  | .post => "POST"
  | .put => "PUT"
  | .patch => "PATCH"
  | .delete => "DELETE"
  | .other name => name

/-- The method of a name.  A name must be a token and not empty. -/
def ofName? (s : String) : Option Method :=
  if s.isEmpty || !s.toList.all isTokenChar then none
  else some <| match s with
    | "GET" => .get
    | "HEAD" => .head
    | "POST" => .post
    | "PUT" => .put
    | "PATCH" => .patch
    | "DELETE" => .delete
    | s => .other s

/-- The verb that a request asks to be allowed.  Methods without one are not
subject to review. -/
def verb? (m : Method) (collection : Bool) : Option String :=
  match m with
  | .get | .head => some (if collection then "list" else "get")
  | .post => some "create"
  | .put => some "update"
  | .patch => some "patch"
  | .delete => some (if collection then "deletecollection" else "delete")
  | .other _ => none

/-- Whether the body of a request is read before the request is forwarded. -/
def hasBody : Method → Bool
  | .post | .put | .patch => true
  | _ => false

end Method

end FleetGate
