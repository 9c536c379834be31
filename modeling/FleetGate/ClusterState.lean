import FleetGate.Numeric.Decimal
import FleetGate.Text.Blank

/-!
# The state of a cluster's API surface

What a cluster serves is summed up in the names of its API groups and in
whether it is an OpenShift cluster.  Two states are equal when these are, so
the order in which a server lists its groups does not matter.
-/

namespace FleetGate

/-- An API group as a server lists it. -/
structure ApiGroup where
  /-- The name of the group. -/
  name : String
  /-- The versions it is served in. -/
  versions : List String
deriving DecidableEq, Repr, Inhabited

/-- The API surface of a cluster. -/
structure ClusterState where
  /-- The names of the groups, in byte order, duplicates kept. -/
  groups : List String
  /-- Whether the cluster serves OpenShift projects. -/
  openshift : Bool
deriving DecidableEq, Repr, Inhabited

namespace ClusterState

/-- The state in which nothing is served. -/
def empty : ClusterState := ⟨[], false⟩

/-- The group that OpenShift clusters serve, in version `v1`. -/
def projectGroup : String := "project.openshift.io"

/-- The state that a list of groups describes. -/
def ofGroups (groups : List ApiGroup) : ClusterState where
  groups := (groups.map (·.name)).mergeSort fun a b => a < b || a == b
  openshift := groups.any fun g => g.name == projectGroup && g.versions.contains "v1"

end ClusterState

/-- How often a cluster's state is polled and how long it must have settled before
a reload, both in milliseconds. -/
structure WatchSettings where
  /-- From one poll to the next. -/
  poll : Nat
  /-- From the last change to the reload. -/
  window : Nat
deriving DecidableEq, Repr, Inhabited

namespace WatchSettings

/-- Half a minute between polls and five seconds to settle. -/
def standard : WatchSettings := ⟨30000, 5000⟩

/-- A positive number of milliseconds that fits 63 bits. -/
def positiveMillis? (text : Option String) : Option Nat :=
  match text.bind fun s => Numeric.readInt? (Text.trim s) with
  | some n => if 0 < n && n < (1 <<< 63 : Nat) then some n.toNat else none
  | none => none

/-- The settings from two texts.  A text that is missing or is no positive number
leaves the standard. -/
def ofTexts (poll window : Option String) : WatchSettings :=
  ⟨(positiveMillis? poll).getD standard.poll, (positiveMillis? window).getD standard.window⟩

end WatchSettings

end FleetGate
