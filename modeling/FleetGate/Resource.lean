/-!
# Kinds and resources

An API server names the same thing in two ways.  A *resource* is the plural
word that stands in a path, such as `deployments`.  A *kind* is the name that
stands in an object, such as `Deployment`.  Both belong to a version of an API
group, and the core group has the empty name.  Discovery maps a resource to its
kind.
-/

namespace FleetGate

/-- A kind: what an object says it is. -/
structure Gvk where
  /-- The API group. -/
  group : String
  /-- The version of the group. -/
  version : String
  /-- The name of the kind. -/
  kind : String
deriving DecidableEq, Repr, Inhabited

/-- A resource: what a path asks for. -/
structure Gvr where
  /-- The API group. -/
  group : String
  /-- The version of the group. -/
  version : String
  /-- The plural name of the resource. -/
  resource : String
deriving DecidableEq, Repr, Inhabited

/-- How messages write a kind. -/
def Gvk.text (k : Gvk) : String := k.group ++ "/" ++ k.version ++ ", Kind=" ++ k.kind

/-- How messages write a resource. -/
def Gvr.text (r : Gvr) : String := r.group ++ "/" ++ r.version ++ ", Resource=" ++ r.resource

/-- The resource and its group after a dot.  The core group is left out. -/
def Gvr.qualified (r : Gvr) : String :=
  if r.group.isEmpty then r.resource else r.resource ++ "." ++ r.group

end FleetGate
