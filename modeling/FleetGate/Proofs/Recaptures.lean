import FleetGate.Proofs.Reloads

/-!
# Changes that land during a reload

When a reload has succeeded the state is captured once more, and what is captured counts as
known.  A reload takes time, and the cluster may have changed since the poll under which it was
called.

* `lastCaptured` is the state that was captured last, and `Run.lastSeen_eq` says that it is the
  one that was seen last.
* `late_change_is_noticed_iff` says when a change that lands after the call has another reload
  pending.  It does so unless the capture after the reload has shown it already.
* So it may be that no reload is ever called for it (`not_noticesLateChanges_of_recapture`).
-/

namespace FleetGate.Poller

variable {s₀ s s₁ s₂ : Poller} {x : Act} {xs ys : List Act} {begun ended now changed : Nat}
  {state : ClusterState} {captured recaptured : Option ClusterState} {settings : WatchSettings}
  {surface : Nat → ClusterState}

/-- The state that was captured last, at first or in an act. -/
def lastCaptured (captured : Option ClusterState) (xs : List Act) : Option ClusterState :=
  (xs.filterMap Act.captured?).getLast?.or captured

/-- The state of a cluster at each time is the surface, and an act captures it at a moment
between its begin and its end. -/
def Act.IsTrueTo (surface : Nat → ClusterState) : Act → Prop
  | .poll begun ended captured | .reloaded begun ended captured =>
      ∀ state, captured = some state → ∃ t, begun ≤ t ∧ t ≤ ended ∧ surface t = state
  | .failed .. => True

theorem Act.IsTrueTo.exists_time (h : x.IsTrueTo surface) (hx : x.captured? = some state) :
    ∃ t, x.begun ≤ t ∧ surface t = state := by
  match x with
  | .poll begun ended captured | .reloaded begun ended captured =>
    obtain ⟨t, hbegun, -, ht⟩ := h state hx
    exact ⟨t, hbegun, ht⟩
  | .failed begun ended => cases hx

theorem lastCaptured_concat (captured : Option ClusterState) (xs : List Act) (x : Act) :
    lastCaptured captured (xs ++ [x]) = x.captured?.or (lastCaptured captured xs) := by
  unfold lastCaptured
  cases hx : x.captured? <;> simp [hx]

theorem Step.lastSeen_eq (h : s.Step x s₁) : s₁.lastSeen = x.captured?.getD s.lastSeen := by
  match x with
  | .poll begun ended (some state) => exact h.of_found.2.1
  | .poll begun ended none => exact h.of_missed.2.1
  | .failed begun ended => exact h.of_failed.2.1
  | .reloaded begun ended captured => exact h.of_reloaded.2.1

/-- The state that was seen last is the one that was captured last. -/
theorem Run.lastSeen_eq (h : (start settings now captured).Run xs s) :
    s.lastSeen = (lastCaptured captured xs).getD .empty := by
  induction h using Steps.concat_induction with
  | done => rfl
  | @step xs s x s₁ _ hx ih =>
    rw [hx.lastSeen_eq, ih, lastCaptured_concat]
    cases x.captured? <;> rfl

/-- Before a reload is called a state has been captured. -/
theorem Run.exists_lastCaptured (h : (start settings now captured).Run xs s) (hs : s.Pending) :
    ∃ last, lastCaptured captured xs = some last ∧ s.lastSeen = last := by
  have hsome : (lastCaptured captured xs).isSome = true := by
    obtain ⟨ys, y, zs, -, -, rfl, -, -, -, ⟨begun, ended, state, rfl, -⟩, -⟩ :=
      h.hasFound Bool.false_ne_true hs
    simp [lastCaptured, Act.captured?]
  obtain ⟨last, hlast⟩ := Option.isSome_iff_exists.mp hsome
  exact ⟨last, hlast, h.lastSeen_eq.trans (by rw [hlast]; rfl)⟩

/-- After a reload that succeeds another one is pending once another state than the one that is
known then has been captured. -/
theorem Step.pending_iff_later (h : s.Step (.reloaded begun ended recaptured) s₁)
    (hys : s₁.Run ys s₂) (hcalled : ∀ y ∈ ys, y.isReload = false) :
    s₂.Pending ↔ ∃ y ∈ ys, ∃ other, y.captured? = some other ∧
      other ≠ recaptured.getD s.lastSeen := by
  obtain ⟨hknown, hseen, hpending⟩ := h.of_reloaded
  rw [(hys.pending_iff hpending (hseen.trans hknown.symm) hcalled).1, hknown]

end Poller

open Poller

/-- A change lands after a reload was called, while it runs or later, and stays.  Once a poll
that begins after the change has captured a state, and no reload was called since, another one
is pending exactly if the capture after the reload has not shown the change already, or another
state has been captured meanwhile. -/
theorem late_change_is_noticed_iff {surface : Nat → ClusterState} {settings : WatchSettings}
    {now begun ended changed : Nat} {captured recaptured : Option ClusterState}
    {xs ys : List Act} {s s₁ s₂ : Poller} {state : ClusterState}
    (hxs : (Poller.start settings now captured).Run xs s)
    (hreload : s.Step (.reloaded begun ended recaptured) s₁) (hys : s₁.Run ys s₂)
    (hcalled : ∀ y ∈ ys, y.isReload = false) (htrue : ∀ y ∈ ys, y.IsTrueTo surface)
    (hstays : ∀ t, changed ≤ t → surface t = state)
    (hpoll : ∃ y ∈ ys, changed ≤ y.begun ∧ y.captured?.isSome = true) :
    ∃ last, lastCaptured captured xs = some last ∧ s₁.lastKnown = recaptured.getD last ∧
      (state ≠ last → (s₂.Pending ↔ recaptured ≠ some state ∨
        ∃ y ∈ ys, ∃ other, y.captured? = some other ∧ other ≠ state)) := by
  have hpending := (hreload.expired_of_reload rfl).pending
  obtain ⟨last, hlast, hseen⟩ := hxs.exists_lastCaptured hpending
  refine ⟨last, hlast, hseen ▸ hreload.of_reloaded.1, fun hne => ?_⟩
  rw [hreload.pending_iff_later hys hcalled, hseen]
  -- the poll after the change captures the state to which the cluster has changed
  obtain ⟨y, hy, hafter, hsome⟩ := hpoll
  obtain ⟨found, hfound⟩ := Option.isSome_iff_exists.mp hsome
  obtain ⟨t, ht, hsurface⟩ := (htrue y hy).exists_time hfound
  have hstate : found = state := hsurface.symm.trans (hstays t (hafter.trans ht))
  subst hstate
  by_cases hshown : recaptured = some found
  · subst hshown
    simp
  · refine iff_of_true ⟨y, hy, found, hfound, ?_⟩ (Or.inl hshown)
    cases recaptured with
    | none => exact hne
    | some shown => exact fun he => hshown (congrArg some he.symm)

/-! ## A change that lands between the call and the capture -/

/-- The state of the cluster once it serves a third group. -/
def lateState : ClusterState := ⟨["apps", "policy", "batch"], false⟩

/-- It serves another group from the first second on, and a third one while a reload runs. -/
def lateSurface (t : Nat) : ClusterState :=
  if t < 1000 then plainState else if t < 2550 then grownState else lateState

/-- A watch of this cluster after a reload. -/
def latePoller (known seen : ClusterState) (now nextPoll : Nat) (deadline? : Option Nat) : Poller :=
  ⟨⟨⟨1000, 1500⟩, known, seen, ⟨1500, deadline?⟩, nextPoll⟩, now⟩

theorem run_found : (Poller.start ⟨1000, 1500⟩ 0 (some plainState)).Run
    [.poll 1000 1000 (some grownState)] (grownPoller 1000 2000 (some 2500)) :=
  .step (@Poller.Step.poll _ _ 1000 1000 _ (by decide) (by decide) (by decide)) .done

theorem step_late (recaptured : Option ClusterState) :
    (grownPoller 1000 2000 (some 2500)).Step (.reloaded 2500 2600 recaptured)
      (latePoller (recaptured.getD grownState) (recaptured.getD grownState) 2600 2000 none) :=
  @Poller.Step.reloaded _ _ 2500 2600 2500 _ (by decide) rfl (by decide) (by decide)

theorem lateSurface_stays (t : Nat) (h : 2550 ≤ t) : lateSurface t = lateState := by
  rw [lateSurface, if_neg (by omega), if_neg (by omega)]

theorem poll_isTrueTo : (Poller.Act.poll 3000 3000 (some lateState)).IsTrueTo lateSurface := by
  rintro state ⟨⟩
  exact ⟨3000, le_rfl, le_rfl, rfl⟩

/-- If the cluster cannot be captured after the reload, the next poll notices the change. -/
theorem late_change_is_noticed_without_recapture :
    (Poller.start ⟨1000, 1500⟩ 0 (some plainState)).Run
      [.poll 1000 1000 (some grownState)] (grownPoller 1000 2000 (some 2500)) ∧
    (grownPoller 1000 2000 (some 2500)).Step (.reloaded 2500 2600 none)
      (latePoller grownState grownState 2600 2000 none) ∧
    (latePoller grownState grownState 2600 2000 none).Run [.poll 3000 3000 (some lateState)]
      (latePoller grownState lateState 3000 4000 (some 4500)) ∧
    (latePoller grownState lateState 3000 4000 (some 4500)).Pending := by
  have hpoll : (latePoller grownState grownState 2600 2000 none).Run
      [.poll 3000 3000 (some lateState)] (latePoller grownState lateState 3000 4000 (some 4500)) :=
    .step (@Poller.Step.poll _ _ 3000 3000 _ (by decide) (by decide) (by decide)) .done
  obtain ⟨last, hlast, -, hnoticed⟩ := late_change_is_noticed_iff run_found (step_late none) hpoll
    (List.forall_mem_singleton.mpr rfl) (List.forall_mem_singleton.mpr poll_isTrueTo)
    lateSurface_stays ⟨_, List.mem_singleton_self _, by decide, rfl⟩
  have he : grownState = last := Option.some.inj hlast
  exact ⟨run_found, step_late none, hpoll, (hnoticed (he ▸ by decide)).mpr (Or.inl nofun)⟩

/-- A change that lands after a reload was called and stays has another reload pending, or
called, once a poll that begins after it has captured a state. -/
def NoticesLateChanges : Prop :=
  ∀ (surface : Nat → ClusterState) (settings : WatchSettings) (now begun ended changed : Nat)
    (captured recaptured : Option ClusterState) (xs ys : List Poller.Act) (s s₁ s₂ : Poller)
    (last state : ClusterState),
    (Poller.start settings now captured).Run xs s →
    s.Step (.reloaded begun ended recaptured) s₁ → s₁.Run ys s₂ →
    (∀ y ∈ .reloaded begun ended recaptured :: ys, y.IsTrueTo surface) →
    Poller.lastCaptured captured xs = some last → begun ≤ changed →
    (∀ t, changed ≤ t → surface t = state) → state ≠ last →
    (∃ y ∈ ys, changed ≤ y.begun ∧ y.captured?.isSome = true) →
    s₂.Pending ∨ ∃ y ∈ ys, y.isReload = true

/-- A change that the capture after a reload shows counts as known, and no reload is called for
it. -/
theorem not_noticesLateChanges_of_recapture : ¬ NoticesLateChanges := by
  intro h
  have hpoll : (latePoller lateState lateState 2600 2000 none).Run
      [.poll 3000 3000 (some lateState)] (latePoller lateState lateState 3000 4000 none) :=
    .step (@Poller.Step.poll _ _ 3000 3000 _ (by decide) (by decide) (by decide)) .done
  have hrecapture : (Poller.Act.reloaded 2500 2600 (some lateState)).IsTrueTo lateSurface := by
    rintro state ⟨⟩
    exact ⟨2600, by decide, le_rfl, rfl⟩
  obtain hpending | ⟨y, hy, hreload⟩ := h lateSurface _ _ _ _ 2550 _ _ _ _ _ _ _ grownState
    lateState run_found (step_late (some lateState)) hpoll
    (List.forall_mem_cons.mpr ⟨hrecapture, List.forall_mem_singleton.mpr poll_isTrueTo⟩) rfl
    (by decide) lateSurface_stays (by decide) ⟨_, List.mem_singleton_self _, by decide, rfl⟩
  · exact Bool.false_ne_true hpending
  · rw [List.mem_singleton.mp hy] at hreload
    exact Bool.false_ne_true hreload

end FleetGate
