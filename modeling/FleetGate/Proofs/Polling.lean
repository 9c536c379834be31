import FleetGate.ClusterWatcher
import FleetGate.Proofs.Followers

/-!
# Polling step by step

The watch of a cluster's state is a row of acts, each with the times at which it began and
ended.  `Poller.Step` has one rule for each of them.

* A poll captures a state or fails to.
* A reload fails.
* A reload succeeds, and the state is captured once more or cannot be.

When a poll and a reload are both due, either may come first.  So the rules allow more than
the program does, which takes first what has been due for longer.

The program runs on a clock that shows the time (`Timekeeping`).  `ClusterWatch.act` is what
it does in a turn, `step_turnWatch` says that this is a step, and `run_turn_starting` how the
program begins.
-/

namespace FleetGate

open Runs (run bind_of)

/-- A watch of a cluster's state between two acts, and the time from which it goes on. -/
structure Poller where
  watch : ClusterWatch
  time : Nat
deriving DecidableEq, Repr

namespace Poller

/-- What a watch does, and when it begins and ends to do it. -/
inductive Act where
  /-- Polls, and captures a state or not. -/
  | poll (begun ended : Nat) (captured : Option ClusterState)
  /-- Reloads, which fails. -/
  | failed (begun ended : Nat)
  /-- Reloads, which succeeds, and captures a state or not. -/
  | reloaded (begun ended : Nat) (captured : Option ClusterState)
deriving DecidableEq, Repr

/-- Whether a reload is called. -/
def Act.isReload : Act → Bool
  | .poll .. => false
  | .failed .. | .reloaded .. => true

/-- The state that is captured, if one is. -/
def Act.captured? : Act → Option ClusterState
  | .poll _ _ captured | .reloaded _ _ captured => captured
  | .failed .. => none

/-- When the act begins. -/
def Act.begun : Act → Nat
  | .poll begun .. | .failed begun _ | .reloaded begun .. => begun

/-- What each act comes to. -/
inductive Step : Poller → Act → Poller → Prop where
  | poll {w : ClusterWatch} {now begun ended : Nat} (captured : Option ClusterState) :
      now ≤ begun → w.nextPoll ≤ begun → begun ≤ ended →
      Step ⟨w, now⟩ (.poll begun ended captured)
        ⟨(w.beginPoll begun).endPoll ended captured, ended⟩
  | failed {w : ClusterWatch} {now begun ended deadline : Nat} :
      now ≤ begun → w.debouncer.deadline? = some deadline → deadline ≤ begun → begun ≤ ended →
      Step ⟨w, now⟩ (.failed begun ended) ⟨w.beginReload, ended⟩
  | reloaded {w : ClusterWatch} {now begun ended deadline : Nat}
      (captured : Option ClusterState) :
      now ≤ begun → w.debouncer.deadline? = some deadline → deadline ≤ begun → begun ≤ ended →
      Step ⟨w, now⟩ (.reloaded begun ended captured) ⟨w.beginReload.endReload captured, ended⟩

/-- One act after the other. -/
abbrev Run : Poller → List Act → Poller → Prop := Steps Step

/-- A watch that has just begun. -/
def start (settings : WatchSettings) (now : Nat) (captured : Option ClusterState) : Poller :=
  ⟨.start settings now captured, now⟩

/-- A watch may wait before it goes on. -/
theorem Step.earlier {w : ClusterWatch} {now now' : Nat} {x : Act} {s : Poller}
    (h : Step ⟨w, now'⟩ x s) (hle : now ≤ now') : Step ⟨w, now⟩ x s := by
  cases h with
  | poll captured hnow hdue hend => exact .poll captured (hle.trans hnow) hdue hend
  | failed hnow hdeadline hdue hend => exact .failed (hle.trans hnow) hdeadline hdue hend
  | reloaded captured hnow hdeadline hdue hend =>
    exact .reloaded captured (hle.trans hnow) hdeadline hdue hend

end Poller

/-! ## The program -/

/-- A clock shows the time, and a wait ends at its time or later.  To look at the clock takes
no time. -/
structure Timekeeping (m : Type → Type) [Monad m] [Clock m] {W : Type} [Runs m W]
    (time : W → Nat) : Prop where
  run_now (v : W) : run (Clock.now : m Nat) v = (time v, v)
  le_wait (until_ : Nat) (v : W) :
    max (time v) until_ ≤ time (run (Clock.waitUntil until_ : m Unit) v).2

/-- What a source does takes time and does not turn it back. -/
structure StateSource.GoesForward {m : Type → Type} [Monad m] {W : Type} [Runs m W]
    (source : StateSource m) (time : W → Nat) : Prop where
  capture (v : W) : time v ≤ time (run source.capture v).2
  invalidate (v : W) : time v ≤ time (run source.invalidate v).2
  reload (v : W) : time v ≤ time (run source.reload v).2

namespace ClusterWatch

variable {m : Type → Type} [Monad m] [Clock m] {W : Type} [Runs m W]

/-- What a watch does in a turn. -/
def act (source : StateSource m) (time : W → Nat) (w : ClusterWatch) (v : W) : Poller.Act :=
  let begun := (run (Clock.waitUntil w.due.2 : m Unit) v).2
  match w.due.1 with
  | .poll =>
      let polled := run source.capture (run source.invalidate begun).2
      .poll (time begun) (time polled.2) polled.1
  | .reload =>
      let called := run source.reload begun
      if called.1 then
        let captured := run source.capture called.2
        .reloaded (time begun) (time captured.2) captured.1
      else .failed (time begun) (time called.2)

variable {source : StateSource m} {time : W → Nat}

theorem run_turnWatch_of_poll (hclock : Timekeeping m time) {w : ClusterWatch} {v begun : W}
    (hdue : w.due.1 = .poll) (hwait : (run (Clock.waitUntil w.due.2 : m Unit) v).2 = begun) :
    run (ClusterWatcher.turnWatch source w) v =
      let polled := run source.capture (run source.invalidate begun).2
      ((w.beginPoll (time begun)).endPoll (time polled.2) polled.1, polled.2) := by
  unfold ClusterWatcher.turnWatch
  rw [Runs.run_bind, hwait, hdue]
  dsimp only
  rw [bind_of (hclock.run_now begun), Runs.run_bind, Runs.run_bind, bind_of (hclock.run_now _),
    Runs.run_pure]

theorem run_turnWatch_of_reload {w : ClusterWatch} {v begun : W} (hdue : w.due.1 = .reload)
    (hwait : (run (Clock.waitUntil w.due.2 : m Unit) v).2 = begun) :
    run (ClusterWatcher.turnWatch source w) v =
      let called := run source.reload begun
      if called.1 then
        let captured := run source.capture called.2
        (w.beginReload.endReload captured.1, captured.2)
      else (w.beginReload, called.2) := by
  unfold ClusterWatcher.turnWatch
  rw [Runs.run_bind, hwait, hdue]
  dsimp only
  rw [Runs.run_bind]
  cases (run source.reload begun).1 with
  | false => rw [if_neg Bool.false_ne_true, if_neg Bool.false_ne_true, Runs.run_pure]
  | true => rw [if_pos rfl, if_pos rfl, Runs.run_bind, Runs.run_pure]

/-- A poll is due at its time. -/
theorem due_of_poll {w : ClusterWatch} (h : w.due.1 = .poll) : w.due.2 = w.nextPoll := by
  unfold due at h ⊢
  split
  · split
    · simp_all
    · rfl
  · rfl

/-- A reload is due at the deadline. -/
theorem deadline_of_reload {w : ClusterWatch} (h : w.due.1 = .reload) :
    w.debouncer.deadline? = some w.due.2 := by
  unfold due at h ⊢
  split
  · next deadline hdeadline =>
    split
    · exact hdeadline
    · simp_all
  · simp_all

/-- A turn of the program is a step, whatever was done since the turn before. -/
theorem step_turnWatch (hclock : Timekeeping m time) (hsource : source.GoesForward time)
    (w : ClusterWatch) (v : W) {now : Nat} (hnow : now ≤ time v) :
    Poller.Step ⟨w, now⟩ (w.act source time v)
      ⟨(run (ClusterWatcher.turnWatch source w) v).1,
        time (run (ClusterWatcher.turnWatch source w) v).2⟩ := by
  refine Poller.Step.earlier ?_ hnow
  clear hnow
  have hbegun := hclock.le_wait w.due.2 v
  obtain ⟨hnow, hdue⟩ := Nat.max_le.mp hbegun
  unfold act
  generalize hwait : (run (Clock.waitUntil w.due.2 : m Unit) v).2 = begun at hnow hdue ⊢
  cases hd : w.due.1 with
  | poll =>
    rw [run_turnWatch_of_poll hclock hd hwait]
    exact .poll _ hnow (due_of_poll hd ▸ hdue)
      ((hsource.invalidate begun).trans (hsource.capture _))
  | reload =>
    rw [run_turnWatch_of_reload hd hwait]
    have hdeadline := deadline_of_reload hd
    have hcalled := hsource.reload begun
    dsimp only
    cases (run source.reload begun).1 with
    | false => exact .failed hnow hdeadline hdue hcalled
    | true => exact .reloaded _ hnow hdeadline hdue (hcalled.trans (hsource.capture _))

/-- The program begins with a capture. -/
theorem run_turn_starting (hclock : Timekeeping m time) {settings : WatchSettings}
    (h : settings.poll ≠ 0) (v : W) :
    run (ClusterWatcher.turn source (.starting settings)) v =
      let looked := run source.capture v
      (.running (Poller.start settings (time looked.2) looked.1).watch, looked.2) := by
  have hpoll : (settings.poll == 0) = false := by simpa using h
  unfold ClusterWatcher.turn
  rw [Runs.run_bind, hpoll, if_neg Bool.false_ne_true, bind_of (hclock.run_now _), Runs.run_pure]
  rfl

theorem run_turn_running (w : ClusterWatch) (v : W) :
    run (ClusterWatcher.turn source (.running w)) v =
      (.running (run (ClusterWatcher.turnWatch source w) v).1,
        (run (ClusterWatcher.turnWatch source w) v).2) := by
  unfold ClusterWatcher.turn
  rw [Runs.run_bind, Runs.run_pure]

end ClusterWatch

end FleetGate
