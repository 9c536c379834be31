import FleetGate.Clock
import FleetGate.ClusterState
import FleetGate.Debouncer

/-!
# Watching the state of a cluster

A watcher captures the state of a cluster once and then polls it.  When a poll finds
another state than the poll before, a reload falls due one window later, and every
further change puts it off.  If the reload succeeds, the state is captured once more
and is then the known one.  A reload that fails, or one that is lost some other way,
falls due again with the next poll that still finds another state than the known one.

* The first poll comes one interval after the first capture, and each other one
  interval after the one before.  A poll that comes more than five milliseconds late
  puts off those after it.
* A capture that fails says nothing: the first one counts as a cluster that serves
  nothing, a poll is skipped, and after a reload the last state that was seen counts
  as the known one.

`ClusterWatch` is the loop with one function for each thing that can happen, and
`ClusterWatcher` runs it over a source of states.
-/

namespace FleetGate

/-- The loop of a watcher after its first capture. -/
structure ClusterWatch where
  /-- Intervals and windows. -/
  settings : WatchSettings
  /-- The state after the last reload that succeeded, or the first one. -/
  lastKnown : ClusterState
  /-- The state that was captured last. -/
  lastSeen : ClusterState
  /-- When a reload is due. -/
  debouncer : Debouncer
  /-- When the next poll is due. -/
  nextPoll : Nat
deriving DecidableEq, Repr, Inhabited

namespace ClusterWatch

/-- How late a poll may be without putting off the others. -/
def tolerance : Nat := 5

/-- The loop after the first capture. -/
def start (settings : WatchSettings) (now : Nat) (captured : Option ClusterState) : ClusterWatch :=
  let state := captured.getD ClusterState.empty
  ⟨settings, state, state, .start settings.window, now + settings.poll⟩

/-- A poll begins. -/
def beginPoll (now : Nat) (w : ClusterWatch) : ClusterWatch :=
  { w with nextPoll :=
      if w.nextPoll + tolerance < now then now + w.settings.poll
      else w.nextPoll + w.settings.poll }

/-- A poll ends with a state or without one. -/
def endPoll (now : Nat) (captured : Option ClusterState) (w : ClusterWatch) : ClusterWatch :=
  match captured with
  | none => w
  | some state =>
      if state ≠ w.lastSeen then
        { w with lastSeen := state, debouncer := w.debouncer.trigger now }
      else if state ≠ w.lastKnown ∧ !w.debouncer.isPending then
        { w with debouncer := w.debouncer.trigger now }
      else w

/-- A reload begins. -/
def beginReload (w : ClusterWatch) : ClusterWatch := { w with debouncer := w.debouncer.cancel }

/-- A reload has succeeded, and the state was captured once more or could not be. -/
def endReload (captured : Option ClusterState) (w : ClusterWatch) : ClusterWatch :=
  let state := captured.getD w.lastSeen
  { w with lastKnown := state, lastSeen := state }

/-- What is due next. -/
inductive Due where
  /-- A poll. -/
  | poll
  /-- A reload. -/
  | reload
deriving DecidableEq, Repr

/-- What is due next, and when. -/
def due (w : ClusterWatch) : Due × Nat :=
  match w.debouncer.deadline? with
  | some deadline => if deadline < w.nextPoll then (.reload, deadline) else (.poll, w.nextPoll)
  | none => (.poll, w.nextPoll)

end ClusterWatch

/-- What a watcher works on. -/
structure StateSource (m : Type → Type) where
  /-- Captures the state. -/
  capture : m (Option ClusterState)
  /-- Forgets what is known of the cluster. -/
  invalidate : m Unit
  /-- Reloads, and says whether that succeeded. -/
  reload : m Bool

/-- A watcher. -/
inductive ClusterWatcher where
  /-- The first capture has not begun. -/
  | starting (settings : WatchSettings)
  /-- The loop is running. -/
  | running (watch : ClusterWatch)
  /-- Nothing is watched, or not any more. -/
  | stopped
deriving DecidableEq, Repr, Inhabited

namespace ClusterWatcher

/-- Whether the watcher watches or is about to. -/
def isRunning : ClusterWatcher → Bool
  | .stopped => false
  | _ => true

/-- When the watcher has something to do. -/
def due? (now : Nat) : ClusterWatcher → Option Nat
  | .starting _ => some now
  | .running w => some (max now w.due.2)
  | .stopped => none

variable {m : Type → Type} [Monad m] [Clock m]

/-- Does what is due next in the loop. -/
def turnWatch (source : StateSource m) (w : ClusterWatch) : m ClusterWatch := do
  Clock.waitUntil w.due.2
  match w.due.1 with
  | .poll =>
      let w := w.beginPoll (← Clock.now)
      source.invalidate
      let captured ← source.capture
      pure (w.endPoll (← Clock.now) captured)
  | .reload =>
      let w := w.beginReload
      if ← source.reload then pure (w.endReload (← source.capture)) else pure w

/-- Does what is due next.  A loop that is never to pause between polls breaks down before
the first of them. -/
def turn (source : StateSource m) : ClusterWatcher → m ClusterWatcher
  | .starting settings => do
      let captured ← source.capture
      if settings.poll == 0 then pure .stopped
      else pure (.running (.start settings (← Clock.now) captured))
  | .running w => do pure (.running (← turnWatch source w))
  | .stopped => pure .stopped

/-- Does everything that is due up to a time, in at most `limit` turns. -/
def runTo (source : StateSource m) (time : Nat) : Nat → ClusterWatcher → m ClusterWatcher
  | 0, w => pure w
  | limit + 1, w => do
      match w.due? (← Clock.now) with
      | some due => if due ≤ time then runTo source time limit (← turn source w) else pure w
      | none => pure w

end ClusterWatcher

end FleetGate
