import FleetGate.ClusterWatcher
import FleetGate.Json.Value
import FleetGate.Simulation.World

/-!
# A cluster by a script

A cluster whose state follows a script, on a clock of its own.  It keeps a record of
what a watcher does with it.
-/

namespace FleetGate.Simulation

/-- What a watcher has done with a cluster. -/
inductive WatcherAct where
  /-- It began to look at the state, for so many-th time. -/
  | looked (i : Nat)
  /-- It forgot what was discovered. -/
  | forgot
  /-- It reloaded, and how that turned out. -/
  | reloaded (ok : Bool)
deriving DecidableEq, Repr, Inhabited

/-- A cluster by a script. -/
structure ScriptedCluster where
  /-- The states, and how long it takes to look at each.  The last entry counts for all
  that follow. -/
  states : List (Option ClusterState × Nat)
  /-- How reloads turn out.  The last entry counts for all that follow. -/
  reloads : List Bool
  /-- The time. -/
  clock : Nat := 0
  /-- How often the state was looked at. -/
  looks : Nat := 0
  /-- The reloads so far. -/
  reloadCount : Nat := 0
  /-- What was done and when, the last first. -/
  acts : List (Nat × WatcherAct) := []
deriving Inhabited

namespace ScriptedCluster

/-- The cluster with another act in its record. -/
def note (act : WatcherAct) (c : ScriptedCluster) : ScriptedCluster :=
  { c with acts := (c.clock, act) :: c.acts }

instance : Clock (StateM ScriptedCluster) where
  now := do return (← get).clock
  waitUntil time := modify fun c => { c with clock := max c.clock time }

/-- The state of the cluster, after the time that it takes to look at it. -/
def look (c : ScriptedCluster) : Option ClusterState × ScriptedCluster :=
  let (state, delay) := (World.scripted c.states c.looks).getD (some .empty, 0)
  (state, { c.note (.looked c.looks) with looks := c.looks + 1, clock := c.clock + delay })

/-- A reload. -/
def reload (c : ScriptedCluster) : Bool × ScriptedCluster :=
  let ok := (World.scripted c.reloads c.reloadCount).getD true
  (ok, { c.note (.reloaded ok) with reloadCount := c.reloadCount + 1 })

/-- What a watcher of the cluster works on. -/
def source : StateSource (StateM ScriptedCluster) where
  capture := modifyGet look
  invalidate := modify (·.note .forgot)
  reload := modifyGet reload

/-- What a watcher does up to a time. -/
def runTo (limit time : Nat) (w : ClusterWatcher) (c : ScriptedCluster) :
    ClusterWatcher × ScriptedCluster :=
  let (w, c) := (w.runTo source time limit).run { c with acts := [] }
  (w, { c with clock := max c.clock time })

/-- An act in a record. -/
def actReport : Nat × WatcherAct → Json
  | (time, .looked i) => .arr [.int time, .str "capture", .int i]
  | (time, .forgot) => .arr [.int time, .str "invalidate"]
  | (time, .reloaded ok) => .arr [.int time, .str "reload", .bool ok]

/-- The record since the last time. -/
def report (c : ScriptedCluster) : Json := .arr (c.acts.reverse.map actReport)

end ScriptedCluster

end FleetGate.Simulation
