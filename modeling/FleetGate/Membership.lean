import FleetGate.Backoff
import FleetGate.Topology

/-!
# Following the clusters of a hub

A stream of events keeps a topology in step with its hub.  When the stream ends, another
is opened from the version that was reached.

* After a clean end the next stream is opened at once.
* After a failure the next one waits, and longer with every failure, until an event is
  delivered.
* If the hub does not go back as far as the version, its clusters are listed anew, and
  the next stream is opened at once.  If that fails, the version is forgotten, so that
  the next stream begins with what is there, and that counts as a failure.

`Membership` has one function for each thing that can happen, and each says what is to be
done about it: whether to reload, and what to close.
-/

namespace FleetGate

/-- A topology that is kept in step, and the delay after the next failure. -/
structure Membership (μ : Type) where
  /-- The clusters. -/
  topology : Topology μ := {}
  /-- The growing delay. -/
  backoff : Backoff := .standard
deriving Inhabited

/-- What is to be done about a change. -/
structure Membership.Effect (μ : Type) where
  /-- Whether to reload. -/
  reloads : Bool := false
  /-- What to close. -/
  closes : List μ := []
deriving Inhabited

/-- How a stream ends. -/
inductive Membership.Ending where
  /-- It is over. -/
  | clean
  /-- Something failed. -/
  | failed
  /-- The hub does not go back as far as the version. -/
  | expired
deriving DecidableEq, Repr, Inhabited

namespace Membership

variable {μ : Type}

/-- The status code of a version that the hub does not go back to. -/
def goneCode : Nat := 410

/-- How a stream ends with a failure of the server. -/
def endingOf (s : ApiStatus) : Ending := if s.code == goneCode then .expired else .failed

/-- What a line of a stream comes to: how the stream ends, or what to do about a
change. -/
def deliver (line : WatchLine) (w : Membership μ) : Except Ending (Effect μ × Membership μ) :=
  match line with
  | .event (.added o) | .event (.modified o) =>
      let (changed, t) := w.topology.upsert o
      .ok (⟨changed, []⟩, ⟨t, w.backoff.reset⟩)
  | .event (.deleted o) =>
      let (changed, held, t) := w.topology.remove o
      .ok (⟨changed, held.toList⟩, ⟨t, w.backoff.reset⟩)
  | .event (.bookmark version) =>
      .ok ({}, ⟨{ w.topology with version := version }, w.backoff.reset⟩)
  | .event (.failed s) | .failure (.status s) => .error (endingOf s)
  | .failure _ => .error .failed

/-- The clusters were listed anew. -/
def relist (list : ApiList) (w : Membership μ) : Effect μ × Membership μ :=
  let (changed, held, t) := w.topology.replace list.items (list.version?.getD "")
  (⟨changed, held⟩, { w with topology := t })

/-- The clusters could not be listed. -/
def forgetVersion (w : Membership μ) : Membership μ :=
  { w with topology := w.topology.forgetVersion }

/-- A failure, and how long to wait after it. -/
def fail (w : Membership μ) : Nanos × Membership μ :=
  match w.backoff.next with
  | some (delay, backoff) => (delay, { w with backoff := backoff })
  | none => (w.backoff.current, w)

end Membership

end FleetGate
