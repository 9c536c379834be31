import FleetGate.Method
import FleetGate.Resource

/-!
# Resource paths

A path addresses a resource when its segments are

* `api`, a version and the rest, for the core group, or
* `apis`, a group, a version and the rest,

where the rest is an optional `namespaces` with a name, a resource, and then
optionally a name and a subresource.  Empty segments do not count, and whatever
follows the subresource is ignored.  Any other path is no resource path.

`namespaces` is a resource too.  It scopes what follows only if something does
follow its name, and `status` and `finalize` after the name are subresources of
the namespace itself.

`ResourcePath.parse?` takes a path apart and `ResourcePath.render` puts one
together.
-/

namespace FleetGate

/-- What a resource path addresses. -/
structure ResourcePath where
  /-- The resource. -/
  gvr : Gvr
  /-- The namespace that scopes it. -/
  ns? : Option String
  /-- The name of one object, or none for the whole collection. -/
  name? : Option String
  /-- The subresource of that object. -/
  subresource? : Option String
deriving DecidableEq, Repr, Inhabited

namespace ResourcePath

/-- Whether the path addresses a whole collection. -/
def isCollection (p : ResourcePath) : Bool := p.name?.isNone

/-- The non-empty segments of a path, as characters. -/
def segmentChars : List Char → List (List Char)
  | [] => []
  | c :: cs =>
      if c == '/' then segmentChars cs
      else match cs with
        | [] => [[c]]
        | d :: _ =>
            if d == '/' then [c] :: segmentChars cs
            else match segmentChars cs with
              | [] => [[c]]
              | segment :: segments => (c :: segment) :: segments

/-- The non-empty segments of a path. -/
def segments (path : String) : List String := (segmentChars path.toList).map String.ofList

/-- The subresources of a namespace. -/
def namespaceSubresources : List String := ["status", "finalize"]

/-- The namespace that scopes the rest of a path, and what is left after it. -/
def splitNamespace : List String → Option String × List String
  | "namespaces" :: ns :: sub :: rest =>
      if sub ∈ namespaceSubresources then (none, "namespaces" :: ns :: sub :: rest)
      else (some ns, sub :: rest)
  | rest => (none, rest)

/-- The resource, the name and the subresource at the end of a path. -/
def ofRest? (group version : String) (ns : Option String) : List String → Option ResourcePath
  | [] => none
  | [r] => some ⟨⟨group, version, r⟩, ns, none, none⟩
  | [r, name] => some ⟨⟨group, version, r⟩, ns, some name, none⟩
  | r :: name :: sub :: _ => some ⟨⟨group, version, r⟩, ns, some name, some sub⟩

/-- What the segments of a path address. -/
def ofSegments? : List String → Option ResourcePath
  | "api" :: version :: rest =>
      let (ns, rest) := splitNamespace rest
      ofRest? "" version ns rest
  | "apis" :: group :: version :: rest =>
      let (ns, rest) := splitNamespace rest
      ofRest? group version ns rest
  | _ => none

/-- What a path addresses, if it is a resource path. -/
def parse? (path : String) : Option ResourcePath := ofSegments? (segments path)

/-- The segments of the path that addresses a resource. -/
def toSegments (p : ResourcePath) : List String :=
  (if p.gvr.group.isEmpty then ["api"] else ["apis", p.gvr.group]) ++ [p.gvr.version] ++
    (match p.ns? with | some ns => ["namespaces", ns] | none => []) ++ [p.gvr.resource] ++
    p.name?.toList ++ p.subresource?.toList

/-- The path that addresses a resource. -/
def render (p : ResourcePath) : String := String.join (p.toSegments.map ("/" ++ ·))

/-- Whether a request asks the server what its own caller may do.  Such a
request is never itself subject to review. -/
def isSelfReview (p : ResourcePath) (m : Method) : Bool :=
  m == .post && p.gvr.group == "authorization.k8s.io" &&
    p.gvr.resource == "selfsubjectaccessreviews"

end ResourcePath

end FleetGate
