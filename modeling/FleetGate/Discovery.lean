import FleetGate.Api.Call
import FleetGate.Api.Shape
import FleetGate.ClusterState
import FleetGate.Resource

/-!
# Discovery

A server says which groups it serves, in which versions, and which resources each
version has.  A discovery is a snapshot of all that.  It maps a resource to its
kind: the first entry with the plural name in the first listing of the version
in the group.

A snapshot asks for the list of groups, for every version of every group, and
then for the versions of the core group, which has no name.  It fails as soon as
one of these fails, or if a group has no version.  Entries with a slash in their
name are subresources and are left out.
-/

namespace FleetGate

/-- An entry of a version. -/
structure Discovery.Entry where
  /-- The plural name. -/
  plural : String
  /-- The kind. -/
  kind : Gvk
deriving DecidableEq, Repr, Inhabited

/-- A group: its versions, in order, each with its entries. -/
abbrev Discovery.Group := List (String × List Discovery.Entry)

/-- What a server serves. -/
structure Discovery where
  /-- The groups by name, the last listed first. -/
  groups : List (String × Discovery.Group)
deriving Repr, Inhabited

namespace Discovery

/-- The name of the core group. -/
def coreGroup : String := ""

/-- The group of a name. -/
def group? (d : Discovery) (name : String) : Option Group :=
  (d.groups.find? (·.1 == name)).map (·.2)

/-- The kind of a resource. -/
def kind? (d : Discovery) (gvr : Gvr) : Option Gvk := do
  let group ← d.group? gvr.group
  let (_, entries) ← group.find? (·.1 == gvr.version)
  (entries.find? (·.plural == gvr.resource)).map (·.kind)

/-- The names of the groups, in byte order. -/
def names (d : Discovery) : List String :=
  (d.groups.map (·.1)).eraseDups.mergeSort fun a b => a < b || a == b

/-! ## Reading the listings -/

open Api

/-- The addresses of a server, which nothing looks at. -/
def addresses : Shape :=
  .list (.record [("clientCIDR", .text), ("serverAddress", .text)])

/-- A version of a group. -/
def versionShape : Shape := .record [("groupVersion", .text), ("version", .text)]

/-- A group in the list of groups. -/
def groupShape : Shape :=
  .typed "v1" "APIGroup" [("name", .text), ("preferredVersion", versionShape),
    ("serverAddressByClientCIDRs", addresses), ("versions", .list versionShape)]

/-- The list of groups. -/
def groupsShape : Shape := .typed "v1" "APIGroupList" [("groups", .list groupShape)]

/-- A group as it is listed: its name, and its versions with their full names. -/
def listedGroup (j : Json) : String × List (String × String) :=
  (textField "name" j,
    (itemsField "versions" j).map fun v => (textField "version" v, textField "groupVersion" v))

/-- The groups of a listing. -/
def listedGroups : Wanted (List (String × List (String × String))) := fun draft =>
  (groupsShape.wanted draft).map fun j => (itemsField "groups" j).map listedGroup

/-- The groups as the state of a cluster sees them. -/
def apiGroups : Wanted (List ApiGroup) := fun draft =>
  (listedGroups draft).map fun listed =>
    listed.map fun (name, versions) => ⟨name, versions.map (·.1)⟩

/-- An entry of the listing of a version. -/
def entryShape : Shape :=
  .record [("categories", .list .text), ("group", .text), ("kind", .text), ("name", .text),
    ("namespaced", .bool), ("shortNames", .list .text), ("singularName", .text),
    ("storageVersionHash", .text), ("verbs", .list .text), ("version", .text)]

/-- The listing of a version. -/
def listingShape : Shape :=
  .typed "v1" "APIResourceList" [("groupVersion", .text), ("resources", .list entryShape)]

/-- The names in the listing of a version. -/
def resourceNames : Wanted (List String) := fun draft =>
  (listingShape.wanted draft).map fun j => (itemsField "resources" j).map (textField "name")

/-- The group and the version of a name that has both or only a version. -/
def splitGroupVersion (s : String) : String × String :=
  let group := s.toList.takeWhile (· != '/')
  if group.length == s.toList.length then (coreGroup, s)
  else (String.ofList group, String.ofList (s.toList.drop (group.length + 1)))

/-- The entries of a listing.  An entry may name another group or version than the
listing does. -/
def entriesOf (j : Json) : List Entry :=
  let (group, version) := splitGroupVersion (textField "groupVersion" j)
  let resources := (itemsField "resources" j).filter fun r => !(textField "name" r).contains '/'
  resources.map fun r =>
    let own (key value : String) : String := ((r.field? key).bind Json.str?).getD value
    ⟨textField "name" r, ⟨own "group" group, own "version" version, textField "kind" r⟩⟩

/-- The entries of the listing of a version. -/
def entries : Wanted (List Entry) := fun draft => (listingShape.wanted draft).map entriesOf

/-- The shape of the versions of the core group. -/
def coreShape : Shape :=
  .typed "v1" "APIVersions" [("serverAddressByClientCIDRs", addresses), ("versions", .list .text)]

/-- The versions of the core group. -/
def coreVersions : Wanted (List String) := fun draft =>
  (coreShape.wanted draft).map (textsField "versions")

/-! ## Taking a snapshot -/

variable {m : Type → Type} [Monad m]

/-- Asks for the entries of versions, each at its path. -/
def fetchVersions (call : Call m) :
    List (String × String) → m (Except CallError (List (String × List Entry)))
  | [] => pure (.ok [])
  | (version, path) :: rest => do
      match ← get call entries path with
      | .error e => pure (.error e)
      | .ok entries =>
          match ← fetchVersions call rest with
          | .error e => pure (.error e)
          | .ok group => pure (.ok ((version, entries) :: group))

/-- Asks for a group, which must have a version. -/
def fetchGroup (call : Call m) (versions : List (String × String)) :
    m (Except CallError Group) :=
  if versions.isEmpty then pure (.error (.undecodable "the group has no versions"))
  else fetchVersions call versions

/-- Asks for groups in order.  Of two groups with one name the later stands. -/
def fetchGroups (call : Call m) (found : List (String × Group)) :
    List (String × List (String × String)) → m (Except CallError (List (String × Group)))
  | [] => pure (.ok found)
  | (name, versions) :: rest => do
      match ← fetchGroup call (versions.map fun (v, full) => (v, "/apis/" ++ full)) with
      | .error e => pure (.error e)
      | .ok group => fetchGroups call ((name, group) :: found) rest

/-- Asks for the core group. -/
def fetchCore (call : Call m) : m (Except CallError Group) := do
  match ← get call coreVersions "/api" with
  | .error e => pure (.error e)
  | .ok versions => fetchGroup call (versions.map fun v => (v, "/api/" ++ v))

/-- Takes a snapshot. -/
def fetch (call : Call m) : m (Except CallError Discovery) := do
  match ← get call listedGroups "/apis" with
  | .error e => pure (.error e)
  | .ok listed =>
      match ← fetchGroups call [] listed with
      | .error e => pure (.error e)
      | .ok groups =>
          match ← fetchCore call with
          | .error e => pure (.error e)
          | .ok core => pure (.ok ⟨(coreGroup, core) :: groups⟩)

/-! ## Mapping resources -/

/-- The kind of a resource in a snapshot, or that it is unknown. -/
def kindFor (d : Discovery) (gvr : Gvr) : Except AccessError Gvk :=
  match d.kind? gvr with
  | some kind => .ok kind
  | none => .error (.resourceNotFound gvr)

/-- Why there is no snapshot before a client is bound. -/
def unbound : AccessError := .mapper "discovery client is not initialized"

/-- Why there is no snapshot after a call has failed. -/
def failed (e : CallError) : AccessError := .mapper ("discovery failed: " ++ e.message)

end Discovery

/-- The last snapshot, if one was taken since the start or the last reset. -/
abbrev DiscoveryCache := Option Discovery

namespace DiscoveryCache

/-- Forgets the snapshot. -/
def reset : DiscoveryCache := none

variable {m : Type → Type} [Monad m]

/-- The snapshot in the cache, or a new one, which stays in the cache unless it
failed. -/
def snapshot (call? : Option (Api.Call m)) (cache : DiscoveryCache) :
    m (Except AccessError Discovery × DiscoveryCache) :=
  match cache, call? with
  | some d, _ => pure (.ok d, cache)
  | none, none => pure (.error Discovery.unbound, cache)
  | none, some call => do
      match ← Discovery.fetch call with
      | .error e => pure (.error (Discovery.failed e), cache)
      | .ok d => pure (.ok d, some d)

/-- The kind of a resource in the snapshot. -/
def kindFor (call? : Option (Api.Call m)) (gvr : Gvr) (cache : DiscoveryCache) :
    m (Except AccessError Gvk × DiscoveryCache) := do
  match ← cache.snapshot call? with
  | (.error e, cache) => pure (.error e, cache)
  | (.ok d, cache) => pure (d.kindFor gvr, cache)

end DiscoveryCache

end FleetGate
