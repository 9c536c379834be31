import FleetGate.Proofs.ByteOrder
import FleetGate.Proofs.Polling
import FleetGate.Simulation.ScriptedCluster

/-!
# Reloads follow changes

A watch remembers the state that it saw last and the one that is known, and it has a reload
pending or not.  Four lemmas say what each act does to these.

* `Step.of_found`: a poll that captures a state sees it, and leaves a reload pending if one was
  or if the state differs from either of those remembered.
* `Step.of_missed` and `Step.of_failed`: a poll or a reload that fails changes neither of them.
* `Step.of_reloaded`: after a reload that succeeds both are what was captured, or what was seen.

So a change that was found stays pending until a reload is called, and a reload that fails
leaves it to be found again (`KeepsTrack`).  As long as no reload is called, one is pending
exactly if another state than the known one has been captured (`Run.pending_iff`).
-/

namespace FleetGate

open Runs (run)

/-- The order in which a server lists its groups does not matter. -/
theorem ClusterState.ofGroups_perm {first second : List ApiGroup} (h : first.Perm second) :
    ofGroups first = ofGroups second := by
  unfold ofGroups
  rw [Text.sort_eq_of_perm (h.map (·.name)), h.any_eq]

namespace Poller

variable {s₀ s s' u u' : Poller} {x : Act} {xs ys : List Act} {begun ended : Nat}
  {state : ClusterState} {captured : Option ClusterState}

/-- The state after the last reload that succeeded, or the first one. -/
def lastKnown (s : Poller) : ClusterState := s.watch.lastKnown

/-- The state that was captured last. -/
def lastSeen (s : Poller) : ClusterState := s.watch.lastSeen

/-- A reload is to come. -/
def Pending (s : Poller) : Prop := s.watch.debouncer.isPending = true

/-- The time for a reload has come before an act begins. -/
def Expired (s : Poller) (x : Act) : Prop :=
  ∃ deadline, s.watch.debouncer.deadline? = some deadline ∧ deadline ≤ x.begun

theorem Expired.pending (h : s.Expired x) : s.Pending := by
  obtain ⟨deadline, hdeadline, -⟩ := h
  rw [Pending, Debouncer.isPending, hdeadline, Option.isSome_some]

/-! ## What each act does -/

namespace Step

theorem of_found (h : s.Step (.poll begun ended (some state)) s') :
    s'.lastKnown = s.lastKnown ∧ s'.lastSeen = state ∧
      (s'.Pending ↔ s.Pending ∨ state ≠ s.lastSeen ∨ state ≠ s.lastKnown) := by
  cases h with
  | @poll w now =>
    unfold lastKnown lastSeen Pending ClusterWatch.endPoll ClusterWatch.beginPoll
    dsimp only
    by_cases hseen : state = w.lastSeen
    · rw [if_neg (not_not_intro hseen)]
      by_cases hagain : state ≠ w.lastKnown ∧ (!w.debouncer.isPending) = true
      · rw [if_pos hagain]
        exact ⟨rfl, hseen.symm, iff_of_true rfl (Or.inr (Or.inr hagain.1))⟩
      · rw [if_neg hagain]
        refine ⟨rfl, hseen.symm, ⟨Or.inl, ?_⟩⟩
        rintro (hpending | hne | hne)
        · exact hpending
        · exact absurd hseen hne
        · exact Bool.eq_false_imp_eq_true.mp fun h => absurd ⟨hne, by rw [h]; rfl⟩ hagain
    · rw [if_pos hseen]
      exact ⟨rfl, rfl, iff_of_true rfl (Or.inr (Or.inl hseen))⟩

theorem of_missed (h : s.Step (.poll begun ended none) s') :
    s'.lastKnown = s.lastKnown ∧ s'.lastSeen = s.lastSeen ∧ (s'.Pending ↔ s.Pending) := by
  cases h with
  | poll => exact ⟨rfl, rfl, Iff.rfl⟩

theorem of_failed (h : s.Step (.failed begun ended) s') :
    s'.lastKnown = s.lastKnown ∧ s'.lastSeen = s.lastSeen ∧ ¬ s'.Pending := by
  cases h with
  | failed => exact ⟨rfl, rfl, Bool.false_ne_true⟩

theorem of_reloaded (h : s.Step (.reloaded begun ended captured) s') :
    s'.lastKnown = captured.getD s.lastSeen ∧ s'.lastSeen = captured.getD s.lastSeen ∧
      ¬ s'.Pending := by
  cases h with
  | reloaded => exact ⟨rfl, rfl, Bool.false_ne_true⟩

/-- A reload is called when its time has come. -/
theorem expired_of_reload (h : s.Step x s') (hx : x.isReload = true) : s.Expired x := by
  cases h with
  | poll => cases hx
  | failed _ hdeadline hdue => exact ⟨_, hdeadline, hdue⟩
  | reloaded _ _ hdeadline hdue => exact ⟨_, hdeadline, hdue⟩

/-- The state that is known changes when a reload succeeds, and not otherwise. -/
theorem lastKnown_eq (h : s.Step x s')
    (hx : ∀ begun ended captured, x ≠ .reloaded begun ended captured) :
    s'.lastKnown = s.lastKnown := by
  match x with
  | .poll begun ended (some state) => exact h.of_found.1
  | .poll begun ended none => exact h.of_missed.1
  | .failed begun ended => exact h.of_failed.1
  | .reloaded begun ended captured => exact absurd rfl (hx begun ended captured)

/-- What is pending stays pending until a reload is called. -/
theorem pending_of_pending (h : s.Step x s') (hs : s.Pending) (hx : x.isReload = false) :
    s'.Pending := by
  match x with
  | .poll begun ended (some state) => exact h.of_found.2.2.mpr (Or.inl hs)
  | .poll begun ended none => exact h.of_missed.2.2.mpr hs
  | .failed begun ended => cases hx
  | .reloaded begun ended captured => cases hx

end Step

/-! ## Changes -/

/-- An act is a poll that finds a change. -/
def Finds (s : Poller) (x : Act) : Prop :=
  ∃ begun ended state, x = .poll begun ended (some state) ∧
    (state ≠ s.lastSeen ∨ state ≠ s.lastKnown)

/-- Since a reload was called, or from the start on, a poll has found a change. -/
def HasFound (s₀ : Poller) (xs : List Act) (s : Poller) : Prop :=
  ∃ ys y zs u u', xs = ys ++ y :: zs ∧ s₀.Run ys u ∧ u.Step y u' ∧ u'.Run zs s ∧ u.Finds y ∧
    ∀ z ∈ zs, z.isReload = false

/-- Since a reload failed no poll has captured a state. -/
def HasFailed (xs : List Act) : Prop :=
  ∃ ys begun ended zs, xs = ys ++ .failed begun ended :: zs ∧
    ∀ z ∈ zs, ∃ begun ended, z = .poll begun ended none

theorem Step.pending_cases (h : s.Step x s') (hs : s'.Pending) :
    x.isReload = false ∧ (s.Pending ∨ s.Finds x) := by
  match x with
  | .poll begun ended (some state) =>
    exact ⟨rfl, (h.of_found.2.2.mp hs).imp id fun hne => ⟨begun, ended, state, rfl, hne⟩⟩
  | .poll begun ended none => exact ⟨rfl, Or.inl (h.of_missed.2.2.mp hs)⟩
  | .failed begun ended => exact absurd hs h.of_failed.2.2
  | .reloaded begun ended captured => exact absurd hs h.of_reloaded.2.2

/-- A reload is pending only after a poll has found a change. -/
theorem Run.hasFound (h : s₀.Run xs s) (hs₀ : ¬ s₀.Pending) : s.Pending → s₀.HasFound xs s := by
  induction h using Steps.concat_induction with
  | done => exact fun hs => absurd hs hs₀
  | @step xs s x s' hxs hx ih =>
    intro hs'
    obtain ⟨hreload, hs | hfinds⟩ := hx.pending_cases hs'
    · obtain ⟨ys, y, zs, u, u', rfl, hys, hy, hzs, hfinds, hnone⟩ := ih hs
      refine ⟨ys, y, zs ++ [x], u, u', by simp, hys, hy, hzs.append (.step hx .done), hfinds, ?_⟩
      intro z hz
      rcases List.mem_append.mp hz with hz | hz
      · exact hnone z hz
      · rw [List.mem_singleton.mp hz]
        exact hreload
    · exact ⟨xs, x, [], s, s', rfl, hxs, hx, .done, hfinds, nofun⟩

/-- While the state that was seen last is not the known one, a reload is pending, or one has
failed since. -/
theorem Run.pending_or_hasFailed (h : s₀.Run xs s) (hs₀ : s₀.lastSeen = s₀.lastKnown) :
    s.lastSeen ≠ s.lastKnown → s.Pending ∨ HasFailed xs := by
  induction h using Steps.concat_induction with
  | done => exact fun hne => absurd hs₀ hne
  | @step xs s x s' hxs hx ih =>
    intro hne
    match x with
    | .poll begun ended (some state) =>
      obtain ⟨hknown, hseen, hpending⟩ := hx.of_found
      rw [hknown, hseen] at hne
      exact Or.inl (hpending.mpr (Or.inr (Or.inr hne)))
    | .poll begun ended none =>
      obtain ⟨hknown, hseen, hpending⟩ := hx.of_missed
      rw [hknown, hseen] at hne
      refine (ih hne).imp hpending.mpr ?_
      rintro ⟨ys, begun', ended', zs, rfl, hmissed⟩
      refine ⟨ys, begun', ended', zs ++ [.poll begun ended none], by simp, fun z hz => ?_⟩
      rcases List.mem_append.mp hz with hz | hz
      · exact hmissed z hz
      · exact ⟨begun, ended, List.mem_singleton.mp hz⟩
    | .failed begun ended => exact Or.inr ⟨xs, begun, ended, [], rfl, nofun⟩
    | .reloaded begun ended captured =>
      obtain ⟨hknown, hseen, -⟩ := hx.of_reloaded
      exact absurd (hseen.trans hknown.symm) hne

/-- Without a reload that succeeds the known state stays. -/
theorem Run.lastKnown_eq (h : s.Run ys u)
    (hys : ∀ begun ended captured, .reloaded begun ended captured ∉ ys) :
    u.lastKnown = s.lastKnown := by
  induction h with
  | done => rfl
  | step hx _ ih =>
    have hhead := hx.lastKnown_eq fun begun ended captured he =>
      hys begun ended captured (he ▸ List.mem_cons_self)
    exact (ih fun begun ended captured hmem =>
      hys begun ended captured (List.mem_cons_of_mem _ hmem)).trans hhead

/-! ## What is kept track of -/

/-- No change is forgotten and none is made up in an act `x` after the acts `xs`. -/
structure KeepsTrack (s₀ : Poller) (xs : List Act) (s : Poller) (x : Act) (s' : Poller) :
    Prop where
  /-- After a poll that finds another state than the known one a reload is pending. -/
  pending_of_poll : ∀ begun ended state, x = .poll begun ended (some state) →
    state ≠ s'.lastKnown → s'.Pending
  /-- Only a reload that succeeds changes the state that is known. -/
  lastKnown_eq : (∀ begun ended captured, x ≠ .reloaded begun ended captured) →
    s'.lastKnown = s.lastKnown
  /-- A reload is called when its time has come, and after a poll that found a change since the
  last one. -/
  found_of_reload : x.isReload = true → s.Expired x ∧ s₀.HasFound xs s
  /-- What is pending stays pending until a reload is called. -/
  pending_of_pending : s.Pending → x.isReload = false → s'.Pending
  /-- A reload that fails, or after which nothing is captured, leaves what was seen, and only
  what was seen when the reload was called is known afterwards. -/
  known_of_recapture : ∀ begun ended, x = .reloaded begun ended none →
    s'.lastKnown = s.lastSeen ∧ s'.lastSeen = s.lastSeen
  /-- A state that was seen and is not known has a reload pending, or a reload has failed and no
  poll has succeeded since. -/
  pending_or_hasFailed : s'.lastSeen ≠ s'.lastKnown → s'.Pending ∨ HasFailed (xs ++ [x])
  /-- In the latter case the next poll that succeeds brings another reload, whatever it
  finds. -/
  pending_of_unknown : s.lastSeen ≠ s.lastKnown → ∀ begun ended state,
    x = .poll begun ended (some state) → s'.Pending
  /-- From here on, whatever fails, each poll that finds another state than is known now leaves
  a reload pending, until one succeeds. -/
  pending_later : ∀ ys u begun ended state u', s'.Run ys u →
    (∀ begun ended captured, .reloaded begun ended captured ∉ ys) →
    u.Step (.poll begun ended (some state)) u' → state ≠ s'.lastKnown → u'.Pending

theorem Run.keepsTrack (h : s₀.Run xs s) (hpending : ¬ s₀.Pending)
    (hknown : s₀.lastSeen = s₀.lastKnown) (hx : s.Step x s') : KeepsTrack s₀ xs s x s' where
  pending_of_poll begun ended state he hne := by
    subst he
    obtain ⟨hkept, -, hpending⟩ := hx.of_found
    exact hpending.mpr (Or.inr (Or.inr (hkept ▸ hne)))
  lastKnown_eq := hx.lastKnown_eq
  found_of_reload hreload := by
    have hexpired := hx.expired_of_reload hreload
    exact ⟨hexpired, h.hasFound hpending hexpired.pending⟩
  pending_of_pending := hx.pending_of_pending
  known_of_recapture begun ended he := by
    subst he
    exact ⟨hx.of_reloaded.1, hx.of_reloaded.2.1⟩
  pending_or_hasFailed := Run.pending_or_hasFailed (h.append (.step hx .done)) hknown
  pending_of_unknown hne begun ended state he := by
    subst he
    refine hx.of_found.2.2.mpr (Or.inr ?_)
    by_cases hseen : state = s.lastSeen
    · exact Or.inr (hseen ▸ hne)
    · exact Or.inl hseen
  pending_later ys u begun ended state u' hys hnone hpoll hne := by
    obtain ⟨-, -, hpending⟩ := hpoll.of_found
    exact hpending.mpr (Or.inr (Or.inr (hys.lastKnown_eq hnone ▸ hne)))

/-! ## What is captured meanwhile -/

/-- As long as no reload is called, one is pending once another state than the known one has
been captured. -/
theorem Run.pending_iff (h : s₀.Run xs s) (hpending : ¬ s₀.Pending)
    (hseen : s₀.lastSeen = s₀.lastKnown) (hxs : ∀ x ∈ xs, x.isReload = false) :
    (s.Pending ↔ ∃ x ∈ xs, ∃ state, x.captured? = some state ∧ state ≠ s₀.lastKnown) ∧
      s.lastKnown = s₀.lastKnown ∧ (¬ s.Pending → s.lastSeen = s₀.lastKnown) := by
  induction h using Steps.concat_induction with
  | done => simpa using ⟨hpending, fun _ => hseen⟩
  | @step xs s x s' _ hx ih =>
    obtain ⟨hbefore, hlast⟩ := List.forall_mem_append.mp hxs
    obtain ⟨hpending, hknown, hsettled⟩ := ih hbefore
    have hlonger : (∃ y ∈ xs ++ [x], ∃ state, y.captured? = some state ∧ state ≠ s₀.lastKnown) ↔
        s.Pending ∨ ∃ state, x.captured? = some state ∧ state ≠ s₀.lastKnown := by
      simp only [hpending, List.mem_append, List.mem_singleton, or_and_right, exists_or,
        exists_eq_left]
    rw [hlonger]
    match x, hlast x (List.mem_singleton_self x) with
    | .poll begun ended (some state), _ =>
      obtain ⟨hknown', hseen', hpending'⟩ := hx.of_found
      rw [hpending', hknown', hseen', hknown]
      by_cases hs : s.Pending
      · simp [hs, Act.captured?]
      · simp [hs, Act.captured?, hsettled hs]
    | .poll begun ended none, _ =>
      obtain ⟨hknown', hseen', hpending'⟩ := hx.of_missed
      rw [hpending', hknown', hseen']
      simpa [Act.captured?] using ⟨hknown, hsettled⟩

/-- Whatever an act captures shows the groups of a list, in any order. -/
def Act.Shows (groups : List ApiGroup) (x : Act) : Prop :=
  ∀ state, x.captured? = some state → ∃ listed, listed.Perm groups ∧ state = .ofGroups listed

/-- As long as all that is captured shows the same groups no reload is called. -/
theorem Run.isReload_eq_false {groups : List ApiGroup} (h : s₀.Run xs s)
    (hpending : ¬ s₀.Pending) (hseen : s₀.lastSeen = s₀.lastKnown)
    (hknown : s₀.lastKnown = .ofGroups groups) (hshows : ∀ x ∈ xs, x.Shows groups) :
    ∀ x ∈ xs, x.isReload = false := by
  induction h using Steps.concat_induction with
  | done => nofun
  | @step xs s x s' hxs hx ih =>
    obtain ⟨hbefore, -⟩ := List.forall_mem_append.mp hshows
    have hnone : ¬ s.Pending := by
      rw [(Run.pending_iff hxs hpending hseen (ih hbefore)).1]
      rintro ⟨y, hy, state, hcaptured, hne⟩
      obtain ⟨listed, hperm, rfl⟩ := hbefore y hy state hcaptured
      exact hne ((ClusterState.ofGroups_perm hperm).trans hknown.symm)
    refine List.forall_mem_append.mpr ⟨ih hbefore, fun y hy => ?_⟩
    rw [List.mem_singleton.mp hy]
    exact Bool.eq_false_iff.mpr fun hreload => hnone (hx.expired_of_reload hreload).pending

end Poller

/-- A watcher begins with a capture, and each of its turns is a step, whatever was done since
the turn before.  In every run of such steps no change that a poll has found is forgotten and
none is made up, whatever fails.  Where all that is captured shows the same groups in any order
no reload is ever called. -/
theorem changes_are_kept_track_of {m : Type → Type} [Monad m] [Clock m] {W : Type} [Runs m W]
    {time : W → Nat} (hclock : Timekeeping m time) {source : StateSource m}
    (hsource : source.GoesForward time) :
    (∀ settings v, settings.poll ≠ 0 →
      run (ClusterWatcher.turn source (.starting settings)) v =
        let looked := run source.capture v
        (.running (Poller.start settings (time looked.2) looked.1).watch, looked.2)) ∧
    (∀ (w : ClusterWatch) v now, now ≤ time v → ∃ w' v',
      run (ClusterWatcher.turn source (.running w)) v = (.running w', v') ∧
      Poller.Step ⟨w, now⟩ (w.act source time v) ⟨w', time v'⟩) ∧
    (∀ settings now captured xs s x s', (Poller.start settings now captured).Run xs s →
      s.Step x s' → Poller.KeepsTrack (.start settings now captured) xs s x s') ∧
    ∀ settings now groups xs s,
      (Poller.start settings now (some (.ofGroups groups))).Run xs s →
      (∀ x ∈ xs, x.Shows groups) → ∀ x ∈ xs, x.isReload = false := by
  refine ⟨fun settings v h => ClusterWatch.run_turn_starting hclock h v,
    fun w v now hnow => ⟨_, _, ClusterWatch.run_turn_running w v,
      ClusterWatch.step_turnWatch hclock hsource w v hnow⟩,
    fun settings now captured xs s x s' hxs hx => ?_,
    fun settings now groups xs s hxs hshows => ?_⟩
  · exact hxs.keepsTrack Bool.false_ne_true rfl hx
  · exact hxs.isReload_eq_false Bool.false_ne_true rfl rfl hshows

/-! ## A reload that fails and is called again -/

namespace Simulation.ScriptedCluster

/-- The time of a scripted cluster. -/
def timeOf (v : ScriptedCluster × Unit) : Nat := v.1.clock

theorem timekeeping : Timekeeping (StateM ScriptedCluster) timeOf where
  run_now v := by
    have hnow : (Clock.now : StateM ScriptedCluster Nat) = get >>= fun c => pure c.clock := rfl
    rw [hnow, Runs.run_bind, Runs.run_get, Runs.run_pure]
    rfl
  le_wait time v := by
    have hwait : (Clock.waitUntil time : StateM ScriptedCluster Unit) =
        modify fun c => { c with clock := max c.clock time } := rfl
    rw [hwait, Runs.run_modify]
    exact le_rfl

theorem goesForward : source.GoesForward timeOf where
  capture v := by
    have hlook : source.capture = (modifyGet look : StateM ScriptedCluster _) := rfl
    rw [hlook, Runs.run_modifyGet]
    exact Nat.le_add_right v.1.clock _
  invalidate v := by
    have hnote : source.invalidate = (modify (·.note .forgot) : StateM ScriptedCluster _) := rfl
    rw [hnote, Runs.run_modify]
    exact le_rfl
  reload v := by
    have hreload : source.reload = (modifyGet reload : StateM ScriptedCluster _) := rfl
    rw [hreload, Runs.run_modifyGet]
    exact le_rfl

end Simulation.ScriptedCluster

/-- The state of a cluster at first. -/
def plainState : ClusterState := ⟨["apps"], false⟩

/-- The state of the same cluster once it serves another group. -/
def grownState : ClusterState := ⟨["apps", "policy"], false⟩

/-- A watch of the cluster that has seen the other group, which is not known. -/
def grownPoller (now nextPoll : Nat) (deadline? : Option Nat) : Poller :=
  ⟨⟨⟨1000, 1500⟩, plainState, grownState, ⟨1500, deadline?⟩, nextPoll⟩, now⟩

/-- A poll finds the other group, the reload fails, and so does the next poll. -/
def failedActs : List Poller.Act :=
  [.poll 1000 1000 (some grownState), .failed 2500 2500, .poll 3000 3000 none]

theorem run_failedActs : (Poller.start ⟨1000, 1500⟩ 0 (some plainState)).Run failedActs
    (grownPoller 3000 4000 none) := by
  have hfound : (Poller.start ⟨1000, 1500⟩ 0 (some plainState)).Step
      (.poll 1000 1000 (some grownState)) (grownPoller 1000 2000 (some 2500)) :=
    @Poller.Step.poll _ _ 1000 1000 _ (by decide) (by decide) (by decide)
  have hfailed : (grownPoller 1000 2000 (some 2500)).Step (.failed 2500 2500)
      (grownPoller 2500 2000 none) :=
    @Poller.Step.failed _ _ 2500 2500 2500 (by decide) rfl (by decide) (by decide)
  have hmissed : (grownPoller 2500 2000 none).Step (.poll 3000 3000 none)
      (grownPoller 3000 4000 none) :=
    @Poller.Step.poll _ _ 3000 3000 _ (by decide) (by decide) (by decide)
  exact .step hfound <| .step hfailed <| .step hmissed .done

/-- After a reload that fails, the next poll that succeeds has it called again. -/
theorem failed_reload_is_called_again :
    Timekeeping (StateM Simulation.ScriptedCluster) Simulation.ScriptedCluster.timeOf ∧
      Simulation.ScriptedCluster.source.GoesForward Simulation.ScriptedCluster.timeOf ∧
      (Poller.start ⟨1000, 1500⟩ 0 (some plainState)).Run failedActs (grownPoller 3000 4000 none) ∧
      (grownPoller 3000 4000 none).Step (.poll 4000 4000 (some grownState))
        (grownPoller 4000 5000 (some 5500)) ∧
      (grownPoller 4000 5000 (some 5500)).Pending := by
  have hclock := Simulation.ScriptedCluster.timekeeping
  have hsource := Simulation.ScriptedCluster.goesForward
  have hpoll : (grownPoller 3000 4000 none).Step (.poll 4000 4000 (some grownState))
      (grownPoller 4000 5000 (some 5500)) :=
    @Poller.Step.poll _ _ 4000 4000 _ (by decide) (by decide) (by decide)
  obtain ⟨-, -, hkept, -⟩ := changes_are_kept_track_of hclock hsource
  exact ⟨hclock, hsource, run_failedActs, hpoll,
    (hkept _ _ _ _ _ _ _ run_failedActs hpoll).pending_of_poll _ _ _ rfl (by decide)⟩

end FleetGate
