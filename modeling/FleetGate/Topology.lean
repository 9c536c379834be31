import FleetGate.ApiObject

/-!
# The clusters of a hub

A hub knows a number of managed clusters by name.  One of them may be the hub itself,
which says so with a label.  Each of the others has a slot for what is needed to reach
it, which is empty until it is first needed.

The topology keeps in step with the hub by single changes (`upsert`, `remove`) and by
whole lists (`replace`).  Each of them says whether the names or the hub changed.  What a
slot held when its cluster went away is handed back, so that it can be closed.
-/

namespace FleetGate

/-- The clusters of a hub.  `μ` is what a slot may hold. -/
structure Topology (μ : Type) where
  /-- The slots by name. -/
  slots : Fields (Option μ) := []
  /-- The name of the hub among its clusters, if it is one. -/
  hub? : Option String := none
  /-- The version up to which changes are known. -/
  version : String := ""
  /-- Whether changes have ever been watched. -/
  isWatched : Bool := false
deriving Inhabited

/-- The label of a hub among its own clusters. -/
def localLabel : String := "local-cluster"

/-- Whether a managed cluster is the hub itself. -/
def ApiObject.isLocal (o : ApiObject) : Bool := Fields.get? localLabel o.labels == some "true"

namespace Topology

variable {μ : Type}

/-- The names of the clusters, in byte order. -/
def names (t : Topology μ) : List String := t.slots.map (·.1)

/-- Whether a cluster is known. -/
def has (t : Topology μ) (name : String) : Bool := (Fields.get? name t.slots).isSome

/-- What the slot of a cluster holds. -/
def held? (t : Topology μ) (name : String) : Option μ := (Fields.get? name t.slots).join

/-- Where a look-up of a name leads. -/
inductive Spot (μ : Type) where
  /-- To the hub. -/
  | hub
  /-- To a slot that is filled. -/
  | held (value : μ)
  /-- To a slot that is empty. -/
  | vacant
  /-- To no cluster. -/
  | unknown
deriving DecidableEq, Repr

/-- Looks a name up.  The empty name is that of the hub. -/
def find (name : String) (t : Topology μ) : Spot μ :=
  if name.isEmpty || t.hub? == some name then .hub
  else match Fields.get? name t.slots with
    | none => .unknown
    | some (some value) => .held value
    | some none => .vacant

/-- The cluster that is meant when none is named: the hub, else the first, else none. -/
def defaultName (t : Topology μ) : String := (t.hub?.or t.names.head?).getD ""

/-- The names of the clusters whose slots are filled. -/
def filled (t : Topology μ) : List String :=
  (t.slots.filter fun (_, slot) => slot.isSome).map (·.1)

/-- The topology with the version of an object, if it has one. -/
def seen (o : ApiObject) (t : Topology μ) : Topology μ :=
  { t with version := o.version?.getD t.version }

/-- A cluster is there or has changed.  An object without a name is passed over. -/
def upsert (o : ApiObject) (t : Topology μ) : Bool × Topology μ :=
  match o.name? with
  | none => (false, t)
  | some name =>
      let t := t.seen o
      let isNew := !t.has name
      let becomesHub := o.isLocal && t.hub? != some name
      (isNew || becomesHub, { t with
        slots := if isNew then Fields.insert name none t.slots else t.slots
        hub? := if becomesHub then some name else t.hub? })

/-- A cluster is gone. -/
def remove (o : ApiObject) (t : Topology μ) : Bool × Option μ × Topology μ :=
  match o.name? with
  | none => (false, none, t)
  | some name =>
      let t := t.seen o
      (t.has name, t.held? name, { t with
        slots := Fields.erase name t.slots
        hub? := if t.hub? == some name then none else t.hub? })

/-- One cluster of a list: it takes over its slot from those that were there before. -/
def adopt (state : Topology μ × Fields (Option μ)) (o : ApiObject) :
    Topology μ × Fields (Option μ) :=
  match o.name? with
  | none => state
  | some name =>
      let (t, before) := state
      ({ t with
          hub? := if o.isLocal then some name else t.hub?
          slots := Fields.insert name (Fields.get? name before).join t.slots },
        Fields.erase name before)

/-- The list of all clusters at a version. -/
def replace (objects : List ApiObject) (version : String) (t : Topology μ) :
    Bool × List μ × Topology μ :=
  let (fresh, before) := objects.foldl adopt ({ t with slots := [], hub? := none }, t.slots)
  let fresh := { fresh with version := version }
  (fresh.names != t.names || fresh.hub? != t.hub?, before.filterMap (·.2), fresh)

/-- Forgets up to which version changes are known. -/
def forgetVersion (t : Topology μ) : Topology μ := { t with version := "" }

/-- Fills the slot of a cluster unless it is filled already, and says what it holds.
`none` if there is no such cluster. -/
def claim (name : String) (value : μ) (t : Topology μ) : Option (μ × Topology μ) :=
  match Fields.get? name t.slots with
  | none => none
  | some (some held) => some (held, t)
  | some none => some (value, { t with slots := Fields.insert name (some value) t.slots })

/-- Changes what the slot of a cluster holds. -/
def update (name : String) (value : μ) (t : Topology μ) : Topology μ :=
  if t.has name then { t with slots := Fields.insert name (some value) t.slots } else t

/-- Empties all slots and hands back what they held. -/
def drain (t : Topology μ) : List μ × Topology μ :=
  (t.slots.filterMap (·.2), { t with slots := t.slots.map fun (name, _) => (name, none) })

end Topology

end FleetGate
