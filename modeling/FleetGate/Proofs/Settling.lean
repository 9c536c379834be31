import FleetGate.Proofs.Recaptures

/-!
# Reloads wait until a cluster has settled

A poll detects a change if it finds another state than the poll before that found any.  A reload
is not called until one window has passed since the last change was detected.

* `Waits` is what carries this through a run: the deadline of a reload is no earlier than one
  window after any change that was detected.  A poll that detects a change puts the deadline off,
  unless the capture after a reload has shown the change already, and then no reload is pending.
* In a burst each change is detected less than one window after the one before.  No reload is
  called meanwhile (`Burst.isReload_eq_false`), and one is due one window after the last change
  (`Burst.deadline?_eq`), unless the burst is a single change that was shown already.
* A reload that succeeds leaves a watch that has settled, and stays so as long as all that is
  captured is the same (`Run.isReload_eq_false_of_settled`).
* `Endless.exists_isReload` says that the reload is called in the end, unless polls overtake it
  for ever.

Polls may be slow, and may be taken first although a reload is due.  The program never does the
latter (`ClusterWatch.not_overtaken_act`).
-/

namespace FleetGate

open Runs (run)

namespace ClusterWatch

variable {now : Nat} {captured : Option ClusterState} {w : ClusterWatch}

/-- What a poll finds changes neither the settings nor when the next one is due. -/
theorem settings_endPoll : (w.endPoll now captured).settings = w.settings ∧
    (w.endPoll now captured).debouncer.window = w.debouncer.window ∧
    (w.endPoll now captured).nextPoll = w.nextPoll := by
  unfold endPoll
  cases captured with
  | none => exact ⟨rfl, rfl, rfl⟩
  | some state =>
    dsimp only
    split
    · exact ⟨rfl, rfl, rfl⟩
    · split <;> exact ⟨rfl, rfl, rfl⟩

theorem beginPoll_of_due (h : now ≤ w.nextPoll + tolerance) :
    w.beginPoll now = { w with nextPoll := w.nextPoll + w.settings.poll } := by
  rw [beginPoll, if_neg (Nat.not_lt.mpr h)]

theorem nextPoll_beginPoll_ge : w.nextPoll + w.settings.poll ≤ (w.beginPoll now).nextPoll := by
  simp only [beginPoll]
  split <;> omega

end ClusterWatch

namespace Poller

/-- When the act ends. -/
def Act.ended : Act → Nat
  | .poll _ ended _ | .failed _ ended | .reloaded _ ended _ => ended

/-- The state that a poll finds, if it finds any. -/
def Act.polled? : Act → Option ClusterState
  | .poll _ _ captured => captured
  | .failed .. | .reloaded .. => none

/-- The state that the last poll has found that found any. -/
def lastPolled (xs : List Act) : Option ClusterState := (xs.filterMap Act.polled?).getLast?

/-- An act is a poll that finds another state than the one before.  The first one that finds
any counts too. -/
def Detects (xs : List Act) (x : Act) : Prop :=
  ∃ begun ended state, x = .poll begun ended (some state) ∧ lastPolled xs ≠ some state

/-- A change is detected in a row of acts. -/
def Detected (xs : List Act) (ended : Nat) : Prop :=
  ∃ ys x zs, xs = ys ++ x :: zs ∧ Detects ys x ∧ x.ended = ended

/-- After the acts `xs` one change after the other is detected, the last one at a given time.  The
poll that detects a change begins less than one window after the change before was detected. -/
inductive Burst (window : Nat) (xs : List Act) : List Act → Nat → Prop where
  | first {x : Act} : Detects xs x → Burst window xs [x] x.ended
  | next {ys zs : List Act} {x : Act} {last : Nat} :
      Burst window xs ys last → Detects (xs ++ (ys ++ zs)) x → x.begun < last + window →
      Burst window xs (ys ++ (zs ++ [x])) x.ended

/-- All that a burst consists of is one state that was captured last before it.  Only the first
capture and the one after a reload are not polls, so one of these has shown it. -/
def Shown (captured : Option ClusterState) (xs ys : List Act) : Prop :=
  ∃ x, ys = [x] ∧ x.captured? = some ((lastCaptured captured xs).getD .empty)

/-- The time for a reload, if one is pending. -/
def deadline? (s : Poller) : Option Nat := s.watch.debouncer.deadline?

/-- A poll is taken although a reload has been due for longer. -/
def Overtaken (s : Poller) (x : Act) : Prop :=
  x.isReload = false ∧ ∃ deadline, s.deadline? = some deadline ∧ deadline < s.watch.nextPoll

/-- A run that never ends, in which polls do not overtake reloads for ever. -/
structure Endless (acts : Nat → Act) (states : Nat → Poller) : Prop where
  step : ∀ n, (states n).Step (acts n) (states (n + 1))
  fair : ∀ n, ∃ k, n ≤ k ∧ ¬ (states k).Overtaken (acts k)

/-- Whatever an act captures is the given state. -/
def Act.ShowsOnly (state : ClusterState) (x : Act) : Prop :=
  ∀ found, x.captured? = some found → found = state

/-- No reload is pending, and what was seen is known. -/
structure Settled (state : ClusterState) (s : Poller) : Prop where
  not_pending : ¬ s.Pending
  lastSeen_eq : s.lastSeen = state
  lastKnown_eq : s.lastKnown = state

variable {s s' u : Poller} {x : Act} {xs ys zs : List Act}
  {begun ended now last window deadline : Nat} {state : ClusterState}
  {captured : Option ClusterState} {settings : WatchSettings}

theorem pending_iff : s.Pending ↔ ∃ deadline, s.deadline? = some deadline := by
  rw [Pending, Debouncer.isPending, Option.isSome_iff_exists]
  rfl

/-! ## Changes that are detected -/

theorem lastPolled_concat (xs : List Act) (x : Act) :
    lastPolled (xs ++ [x]) = x.polled?.or (lastPolled xs) := by
  unfold lastPolled
  cases hx : x.polled? <;> simp [hx]

theorem Detects.isReload_eq_false (h : Detects xs x) : x.isReload = false := by
  obtain ⟨begun, ended, state, rfl, -⟩ := h
  rfl

theorem Detects.detected (h : Detects xs x) : Detected (xs ++ [x]) x.ended :=
  ⟨xs, x, [], rfl, h, rfl⟩

theorem Detected.append (h : Detected xs ended) (ys : List Act) : Detected (xs ++ ys) ended := by
  obtain ⟨before, x, after, rfl, hx⟩ := h
  exact ⟨before, x, after ++ ys, by simp, hx⟩

theorem Detected.of_concat (h : Detected (xs ++ [x]) ended) :
    Detected xs ended ∨ Detects xs x ∧ x.ended = ended := by
  obtain ⟨before, y, after, heq, hy⟩ := h
  rcases List.eq_nil_or_concat after with rfl | ⟨after, z, rfl⟩
  · obtain ⟨rfl, hlast⟩ := List.append_inj' heq rfl
    cases hlast
    exact Or.inr hy
  · rw [List.concat_eq_append, ← List.cons_append, ← List.append_assoc] at heq
    obtain ⟨rfl, -⟩ := List.append_inj' heq rfl
    exact Or.inl ⟨before, y, after, rfl, hy⟩

/-- A burst ends when its last change is detected. -/
theorem Burst.exists_detects (h : Burst window xs ys last) :
    ∃ before x, ys = before ++ [x] ∧ Detects (xs ++ before) x ∧ x.ended = last := by
  cases h with
  | @first x hx => exact ⟨[], x, rfl, by simpa using hx, rfl⟩
  | @next ys zs x last _ hx _ => exact ⟨ys ++ zs, x, by simp, hx, rfl⟩

theorem Burst.detected (h : Burst window xs ys last) : Detected (xs ++ ys) last := by
  obtain ⟨before, x, rfl, hx, rfl⟩ := h.exists_detects
  rw [← List.append_assoc]
  exact hx.detected

/-! ## What each act does to the deadline -/

namespace Step

theorem time_le (h : s.Step x s') : s.time ≤ x.begun ∧ x.begun ≤ x.ended ∧ s'.time = x.ended := by
  cases h with
  | poll _ hnow _ hend => exact ⟨hnow, hend, rfl⟩
  | failed hnow _ _ hend => exact ⟨hnow, hend, rfl⟩
  | reloaded _ hnow _ _ hend => exact ⟨hnow, hend, rfl⟩

theorem settings_eq (h : s.Step x s') : s'.watch.settings = s.watch.settings ∧
    s'.watch.debouncer.window = s.watch.debouncer.window := by
  cases h with
  | poll =>
    obtain ⟨hsettings, hwindow, -⟩ := ClusterWatch.settings_endPoll
    exact ⟨hsettings, hwindow⟩
  | failed => exact ⟨rfl, rfl⟩
  | reloaded => exact ⟨rfl, rfl⟩

theorem nextPoll_ge (h : s.Step x s') (hx : x.isReload = false) :
    s.watch.nextPoll + s.watch.settings.poll ≤ s'.watch.nextPoll := by
  cases h with
  | poll =>
    rw [ClusterWatch.settings_endPoll.2.2]
    exact ClusterWatch.nextPoll_beginPoll_ge
  | failed => cases hx
  | reloaded => cases hx

/-- A poll that finds a state puts the deadline off, or the state is the one that was seen last
and the deadline stays. -/
theorem deadline?_of_found (h : s.Step (.poll begun ended (some state)) s') :
    (s'.deadline? = some (ended + s.watch.debouncer.window) ∧
        (state = s.lastSeen → ¬ s.Pending ∧ state ≠ s.lastKnown)) ∨
      state = s.lastSeen ∧ s'.deadline? = s.deadline? := by
  cases h with
  | @poll w now =>
    unfold lastKnown lastSeen Pending deadline? ClusterWatch.endPoll ClusterWatch.beginPoll
    dsimp only
    by_cases hseen : state = w.lastSeen
    · rw [if_neg (not_not_intro hseen)]
      by_cases hagain : state ≠ w.lastKnown ∧ (!w.debouncer.isPending) = true
      · rw [if_pos hagain]
        refine Or.inl ⟨rfl, fun _ => ⟨?_, hagain.1⟩⟩
        simpa using hagain.2
      · rw [if_neg hagain]
        exact Or.inr ⟨hseen, rfl⟩
    · rw [if_pos hseen]
      exact Or.inl ⟨rfl, fun he => absurd he hseen⟩

theorem deadline?_of_missed (h : s.Step (.poll begun ended none) s') :
    s'.deadline? = s.deadline? := by
  cases h with
  | poll => rfl

theorem deadline?_of_reload (h : s.Step x s') (hx : x.isReload = true) : s'.deadline? = none := by
  cases h with
  | poll => cases hx
  | failed => rfl
  | reloaded => rfl

/-- Until a reload is called the state that was polled last stays the one that was seen last. -/
theorem lastPolled_eq (h : s.Step x s') (hx : x.isReload = false)
    (hs : lastPolled xs = some s.lastSeen) : lastPolled (xs ++ [x]) = some s'.lastSeen := by
  rw [h.lastSeen_eq, lastPolled_concat, hs]
  cases x with
  | poll _ _ captured => cases captured <;> rfl
  | failed => cases hx
  | reloaded => cases hx

/-- A watch that has settled calls no reload as long as nothing else is captured. -/
theorem settled (h : s.Step x s') (hs : s.Settled state) (hx : x.ShowsOnly state) :
    x.isReload = false ∧ s'.Settled state := by
  match x with
  | .poll begun ended (some found) =>
    obtain rfl := hx found rfl
    obtain ⟨hknown, hseen, hpending⟩ := h.of_found
    refine ⟨rfl, ?_, hseen, hknown.trans hs.lastKnown_eq⟩
    rw [hpending]
    simp [hs.not_pending, hs.lastSeen_eq, hs.lastKnown_eq]
  | .poll begun ended none =>
    obtain ⟨hknown, hseen, hpending⟩ := h.of_missed
    exact ⟨rfl, hpending.not.mpr hs.not_pending, hseen.trans hs.lastSeen_eq,
      hknown.trans hs.lastKnown_eq⟩
  | .failed begun ended => exact absurd (h.expired_of_reload rfl).pending hs.not_pending
  | .reloaded begun ended captured =>
    exact absurd (h.expired_of_reload rfl).pending hs.not_pending

/-- What is pending stays due at its time as long as nothing else is captured. -/
theorem deadline?_eq (h : s.Step x s') (hs : s.deadline? = some deadline)
    (hseen : s.lastSeen = state) (hx : x.ShowsOnly state) (hreload : x.isReload = false) :
    s'.deadline? = some deadline ∧ s'.lastSeen = state := by
  match x with
  | .poll begun ended (some found) =>
    obtain rfl := hx found rfl
    refine ⟨?_, h.of_found.2.1⟩
    rcases h.deadline?_of_found with ⟨-, hsettled⟩ | ⟨-, hstays⟩
    · exact absurd (pending_iff.mpr ⟨deadline, hs⟩) (hsettled hseen.symm).1
    · exact hstays.trans hs
  | .poll begun ended none =>
    exact ⟨h.deadline?_of_missed.trans hs, h.of_missed.2.1.trans hseen⟩
  | .failed begun ended => cases hreload
  | .reloaded begun ended captured => cases hreload

theorem settled_of_reloaded (h : s.Step (.reloaded begun ended (some state)) s') :
    s'.Settled state := by
  obtain ⟨hknown, hseen, hpending⟩ := h.of_reloaded
  exact ⟨hpending, hseen, hknown⟩

end Step

/-! ## Deadlines along a run -/

/-- What was seen last is what was polled last, or the first capture or the one after a reload has
shown it, and then the watch has settled. -/
theorem Run.lastPolled_or_settled (h : (start settings now captured).Run xs s) :
    lastPolled xs = some s.lastSeen ∨ s.Settled s.lastSeen := by
  induction h using Steps.concat_induction with
  | done => exact Or.inr ⟨Bool.false_ne_true, rfl, rfl⟩
  | @step xs s x s' _ hx ih =>
    match x with
    | .poll begun ended (some state) =>
      left
      rw [lastPolled_concat, hx.lastSeen_eq]
      rfl
    | .poll begun ended none =>
      refine ih.imp (hx.lastPolled_eq rfl) fun hs => ?_
      rw [hx.lastSeen_eq]
      exact (hx.settled hs nofun).2
    | .failed begun ended =>
      left
      rw [lastPolled_concat, hx.lastSeen_eq]
      exact ih.resolve_right fun hs => hs.not_pending (hx.expired_of_reload rfl).pending
    | .reloaded begun ended captured =>
      right
      obtain ⟨hknown, hseen, hpending⟩ := hx.of_reloaded
      exact ⟨hpending, rfl, hknown.trans hseen.symm⟩

/-- A change that is detected but was seen already has been shown by a capture that was no poll. -/
theorem Run.settled_of_detects (h : (start settings now captured).Run xs s) (hx : Detects xs x)
    (hshown : x.captured? = some s.lastSeen) : s.Settled s.lastSeen := by
  obtain ⟨begun, ended, state, rfl, hne⟩ := hx
  exact h.lastPolled_or_settled.resolve_left (hshown ▸ hne)

/-- Whatever is pending waits for one window after each change that was detected. -/
structure Waits (settings : WatchSettings) (xs : List Act) (s : Poller) : Prop where
  settings_eq : s.watch.settings = settings ∧ s.watch.debouncer.window = settings.window
  detected_le : ∀ ended, Detected xs ended →
    ended ≤ s.time ∧ ∀ deadline, s.deadline? = some deadline → ended + settings.window ≤ deadline

namespace Waits

theorem concat_of_found (hs : Waits settings xs s)
    (hx : s.Step (.poll begun ended (some state)) s')
    (hshown : Detects xs (.poll begun ended (some state)) → state = s.lastSeen → ¬ s.Pending) :
    Waits settings (xs ++ [.poll begun ended (some state)]) s' where
  settings_eq := hs.settings_eq.imp hx.settings_eq.1.trans hx.settings_eq.2.trans
  detected_le time htime := by
    obtain ⟨hnow, hend, htime'⟩ := hx.time_le
    simp only [Act.begun, Act.ended] at hnow hend htime'
    rcases htime.of_concat with hbefore | ⟨hdetects, rfl⟩
    · obtain ⟨hle, hdeadline⟩ := hs.detected_le time hbefore
      refine ⟨by omega, fun deadline hd => ?_⟩
      rcases hx.deadline?_of_found with ⟨hput, -⟩ | ⟨-, hstays⟩
      · cases hput.symm.trans hd
        rw [hs.settings_eq.2]
        omega
      · exact hdeadline deadline (hstays.symm.trans hd)
    · refine ⟨htime'.ge, fun deadline hd => ?_⟩
      rcases hx.deadline?_of_found with ⟨hput, -⟩ | ⟨hseen, hstays⟩
      · cases hput.symm.trans hd
        rw [hs.settings_eq.2]
        exact le_rfl
      · exact absurd (pending_iff.mpr ⟨deadline, hstays.symm.trans hd⟩) (hshown hdetects hseen)

theorem concat_of_missed (hs : Waits settings xs s) (hx : s.Step (.poll begun ended none) s') :
    Waits settings (xs ++ [.poll begun ended none]) s' where
  settings_eq := hs.settings_eq.imp hx.settings_eq.1.trans hx.settings_eq.2.trans
  detected_le time htime := by
    obtain ⟨hnow, hend, htime'⟩ := hx.time_le
    rcases htime.of_concat with hbefore | ⟨⟨_, _, _, ⟨⟩, -⟩, -⟩
    obtain ⟨hle, hdeadline⟩ := hs.detected_le time hbefore
    rw [hx.deadline?_of_missed]
    exact ⟨by omega, hdeadline⟩

theorem concat_of_reload (hs : Waits settings xs s) (hx : s.Step x s')
    (hreload : x.isReload = true) : Waits settings (xs ++ [x]) s' where
  settings_eq := hs.settings_eq.imp hx.settings_eq.1.trans hx.settings_eq.2.trans
  detected_le time htime := by
    obtain ⟨hnow, hend, htime'⟩ := hx.time_le
    rcases htime.of_concat with hbefore | ⟨hdetects, -⟩
    · have hle := (hs.detected_le time hbefore).1
      rw [hx.deadline?_of_reload hreload]
      exact ⟨by omega, nofun⟩
    · rw [hdetects.isReload_eq_false] at hreload
      cases hreload

end Waits

theorem Run.waits (h : (start settings now captured).Run xs s) : Waits settings xs s := by
  induction h using Steps.concat_induction with
  | done => exact ⟨⟨rfl, rfl⟩, fun ended ⟨ys, x, zs, he, _⟩ => by simp at he⟩
  | @step xs s x s' hxs hx ih =>
    match x with
    | .poll begun ended (some state) =>
      exact ih.concat_of_found hx fun hdetects hseen =>
        (Run.settled_of_detects hxs hdetects (congrArg some hseen)).not_pending
    | .poll begun ended none => exact ih.concat_of_missed hx
    | .failed begun ended => exact ih.concat_of_reload hx rfl
    | .reloaded begun ended captured => exact ih.concat_of_reload hx rfl

/-- A reload is called no earlier than one window after each change that was detected. -/
theorem Run.detected_le_begun (h : (start settings now captured).Run (xs ++ x :: ys) u)
    (hx : x.isReload = true) (hended : Detected xs ended) : ended + settings.window ≤ x.begun := by
  obtain ⟨s, hxs, hrest⟩ := h.split
  cases hrest with
  | step hstep _ =>
    obtain ⟨deadline, hdeadline, hdue⟩ := hstep.expired_of_reload hx
    exact (((Run.waits hxs).detected_le ended hended).2 deadline hdeadline).trans hdue

theorem Run.begun_le_time (h : s.Run xs u) : s.time ≤ u.time ∧ ∀ x ∈ xs, x.begun ≤ u.time := by
  induction h using Steps.concat_induction with
  | done => exact ⟨le_rfl, nofun⟩
  | step _ hx ih =>
    obtain ⟨hbegun, hended, htime⟩ := hx.time_le
    obtain ⟨hle, hacts⟩ := ih
    rw [htime]
    refine ⟨by omega, List.forall_mem_append.mpr ⟨fun x hx => ?_, by simpa using hended⟩⟩
    have hxs := hacts x hx
    omega

/-- A change that was not seen before it is detected puts the deadline off. -/
theorem Run.deadline?_of_detects (h : (start settings now captured).Run xs s) (hx : Detects xs x)
    (hstep : s.Step x u) (hne : x.captured? ≠ some s.lastSeen) :
    u.deadline? = some (x.ended + settings.window) := by
  obtain ⟨begun, ended, state, rfl, -⟩ := hx
  rcases hstep.deadline?_of_found with ⟨hput, -⟩ | ⟨rfl, -⟩
  · rw [hput, h.waits.settings_eq.2]
    rfl
  · exact absurd rfl hne

theorem Run.lastPolled_eq (h : s.Run ys u) (hys : ∀ y ∈ ys, y.isReload = false)
    (hs : lastPolled xs = some s.lastSeen) : lastPolled (xs ++ ys) = some u.lastSeen := by
  induction h using Steps.concat_induction with
  | done => simpa using hs
  | @step ys s x s' _ hx ih =>
    obtain ⟨hbefore, hlast⟩ := List.forall_mem_append.mp hys
    rw [← List.append_assoc]
    exact hx.lastPolled_eq (hlast x (List.mem_singleton_self x)) (ih hbefore)

/-! ## Bursts -/

namespace Burst

/-- After a burst a reload waits for one window. -/
theorem le_begun (h : Burst settings.window xs ys last)
    (hrun : (start settings now captured).Run (xs ++ ys ++ zs) u) :
    ∀ z ∈ zs, z.isReload = true → last + settings.window ≤ z.begun := by
  intro z hz hreload
  obtain ⟨before, after, rfl⟩ := List.append_of_mem hz
  rw [← List.append_assoc] at hrun
  exact hrun.detected_le_begun hreload (h.detected.append before)

/-- No reload is called during a burst. -/
theorem isReload_eq_false (h : Burst settings.window xs ys last)
    (hrun : (start settings now captured).Run (xs ++ ys) u) :
    ∀ y ∈ ys, y.isReload = false := by
  induction h generalizing u with
  | first hx => exact List.forall_mem_singleton.mpr hx.isReload_eq_false
  | @next ys zs x last hys hx hsoon ih =>
    rw [← List.append_assoc, ← List.append_assoc] at hrun
    obtain ⟨s, hbefore, hstep⟩ := hrun.of_concat
    obtain ⟨s₁, hburst, hzs⟩ := hbefore.split
    refine List.forall_mem_append.mpr ⟨ih hburst, List.forall_mem_append.mpr
      ⟨fun z hz => Bool.eq_false_iff.mpr fun hreload => ?_,
        List.forall_mem_singleton.mpr hx.isReload_eq_false⟩⟩
    -- a reload between the two changes would be called before the window is over
    have hlate := hys.le_begun hbefore z hz hreload
    have hearly := (Run.begun_le_time hzs).2 z hz
    have hnext := hstep.time_le.1
    omega

/-- What was seen last at the end of a burst is what was polled last. -/
theorem lastPolled_eq (h : Burst settings.window xs ys last)
    (hrun : (start settings now captured).Run (xs ++ ys) u) :
    lastPolled (xs ++ ys) = some u.lastSeen := by
  obtain ⟨before, x, rfl, ⟨begun, ended, state, rfl, -⟩, -⟩ := h.exists_detects
  rw [← List.append_assoc] at hrun ⊢
  rw [hrun.lastSeen_eq, lastPolled_concat, lastCaptured_concat]
  rfl

/-- A burst that was not shown already puts the deadline one window after its last change. -/
theorem deadline?_eq (h : Burst settings.window xs ys last)
    (hrun : (start settings now captured).Run (xs ++ ys) u) (hshown : ¬ Shown captured xs ys) :
    u.deadline? = some (last + settings.window) := by
  cases h with
  | @first x hx =>
    obtain ⟨s, hbefore, hstep⟩ := hrun.of_concat
    refine Run.deadline?_of_detects hbefore hx hstep fun he => hshown ⟨x, rfl, ?_⟩
    rw [he, Run.lastSeen_eq hbefore]
  | @next ys zs x last hys hx hsoon =>
    have hnone := (next hys hx hsoon).isReload_eq_false hrun
    rw [← List.append_assoc, ← List.append_assoc] at hrun
    rw [← List.append_assoc] at hx
    obtain ⟨s, hbefore, hstep⟩ := hrun.of_concat
    obtain ⟨s₁, hburst, hzs⟩ := hbefore.split
    refine Run.deadline?_of_detects hbefore hx hstep fun he => ?_
    -- no reload is called in between, so what was seen last is what was polled last
    have hpolled := Run.lastPolled_eq hzs (fun z hz => hnone z (by simp [hz]))
      (hys.lastPolled_eq hburst)
    obtain ⟨begun, ended, state, rfl, hne⟩ := hx
    exact hne (hpolled.trans he.symm)

/-- After a burst that was shown already the watch has settled. -/
theorem settled (h : Burst settings.window xs ys last)
    (hrun : (start settings now captured).Run (xs ++ ys) u) (hshown : Shown captured xs ys) :
    u.Settled u.lastSeen := by
  obtain ⟨x, rfl, hx⟩ := hshown
  obtain ⟨s, hbefore, hstep⟩ := hrun.of_concat
  rw [← Run.lastSeen_eq hbefore] at hx
  obtain ⟨before, y, hlast, hdetects, -⟩ := h.exists_detects
  obtain ⟨rfl, rfl⟩ : before = [] ∧ y = x := by
    simpa [List.append_eq_singleton_iff] using hlast.symm
  rw [List.append_nil] at hdetects
  have hs := Run.settled_of_detects hbefore hdetects hx
  rw [hstep.lastSeen_eq, hx]
  exact (hstep.settled hs fun found hfound => Option.some.inj (hfound.symm.trans hx)).2

end Burst

/-! ## A cluster whose state stays -/

/-- After a watch has settled no reload is called as long as nothing else is captured. -/
theorem Run.isReload_eq_false_of_settled (h : s.Run xs u) (hs : s.Settled state)
    (hxs : ∀ x ∈ xs, x.ShowsOnly state) : ∀ x ∈ xs, x.isReload = false := by
  induction h with
  | done => nofun
  | step hx _ ih =>
    obtain ⟨hhead, htail⟩ := List.forall_mem_cons.mp hxs
    obtain ⟨hreload, hsettled⟩ := hx.settled hs hhead
    exact List.forall_mem_cons.mpr ⟨hreload, ih hsettled htail⟩

namespace Endless

variable {acts : Nat → Act} {states : Nat → Poller}

theorem isReload_eq_false_of_settled (h : Endless acts states) {n : Nat}
    (hs : (states n).Settled state) (hacts : ∀ k, (acts k).ShowsOnly state) :
    ∀ k, n ≤ k → (acts k).isReload = false := by
  have hsettled : ∀ k, n ≤ k → (states k).Settled state := by
    intro k hk
    induction k, hk using Nat.le_induction with
    | base => exact hs
    | succ k _ ih => exact ((h.step k).settled ih (hacts k)).2
  exact fun k hk => ((h.step k).settled (hsettled k hk) (hacts k)).1

/-- A reload that is pending is called in the end, if nothing else is captured meanwhile. -/
theorem exists_isReload (h : Endless acts states) (hpoll : (states 0).watch.settings.poll ≠ 0)
    (hdeadline : (states 0).deadline? = some deadline) (hseen : (states 0).lastSeen = state)
    (hacts : ∀ n, (acts n).ShowsOnly state) : ∃ n, (acts n).isReload = true := by
  by_contra hnever
  have hnone : ∀ n, (acts n).isReload = false := fun n =>
    Bool.eq_false_iff.mpr fun hn => hnever ⟨n, hn⟩
  -- the deadline stays while each poll has the next one come later
  have hstays : ∀ n, ((states n).deadline? = some deadline ∧ (states n).lastSeen = state) ∧
      (states n).watch.settings = (states 0).watch.settings ∧ n ≤ (states n).watch.nextPoll := by
    intro n
    induction n with
    | zero => exact ⟨⟨hdeadline, hseen⟩, rfl, Nat.zero_le _⟩
    | succ n ih =>
      obtain ⟨⟨hd, hs⟩, hsettings, hle⟩ := ih
      have hlater := (h.step n).nextPoll_ge (hnone n)
      rw [hsettings] at hlater
      exact ⟨(h.step n).deadline?_eq hd hs (hacts n) (hnone n),
        (h.step n).settings_eq.1.trans hsettings, by omega⟩
  obtain ⟨k, hk, hfair⟩ := h.fair (deadline + 1)
  obtain ⟨⟨hd, -⟩, -, hle⟩ := hstays k
  exact hfair ⟨hnone k, deadline, hd, by omega⟩

/-- If the first reload succeeds, and the state that is captured then stays, there is no other. -/
theorem existsUnique_isReload (h : Endless acts states) (hacts : ∀ n, (acts n).ShowsOnly state)
    (hfirst : ∀ n, (acts n).isReload = true → (∀ k < n, (acts k).isReload = false) →
      ∃ begun ended, acts n = .reloaded begun ended (some state))
    (hreload : ∃ n, (acts n).isReload = true) :
    ∃ n, (acts n).isReload = true ∧ ∀ k, (acts k).isReload = true → k = n := by
  have hbefore : ∀ k < Nat.find hreload, (acts k).isReload = false := fun k hk =>
    Bool.eq_false_iff.mpr (Nat.find_min hreload hk)
  refine ⟨Nat.find hreload, Nat.find_spec hreload, fun k hk => ?_⟩
  obtain ⟨begun, ended, hcalled⟩ := hfirst _ (Nat.find_spec hreload) hbefore
  have hstep := h.step (Nat.find hreload)
  rw [hcalled] at hstep
  have hafter := h.isReload_eq_false_of_settled hstep.settled_of_reloaded hacts
  rcases lt_trichotomy k (Nat.find hreload) with hlt | heq | hgt
  · exact absurd hk (Bool.eq_false_iff.mp (hbefore k hlt))
  · exact heq
  · exact absurd hk (Bool.eq_false_iff.mp (hafter k hgt))

/-- What an endless run does up to some act is a run. -/
theorem run_take (h : Endless acts states) (n : Nat) :
    (states 0).Run ((List.range n).map acts) (states n) := by
  induction n with
  | zero => exact .done
  | succ n ih =>
    rw [List.range_succ, List.map_append]
    exact ih.append (.step (h.step n) .done)

end Endless

/-! ## What a watch waits for -/

/-- Reloads wait until a cluster has settled, and one is enough then. -/
structure WaitsToSettle (settings : WatchSettings) (now : Nat) (captured : Option ClusterState) :
    Prop where
  /-- A reload is called no earlier than one window after each change that was detected
  before. -/
  detected_le_begun : ∀ xs x ys u, (start settings now captured).Run (xs ++ x :: ys) u →
    x.isReload = true → ∀ ended, Detected xs ended → ended + settings.window ≤ x.begun
  /-- No reload is called during a burst, nor for one window after it. -/
  burst_le_begun : ∀ xs ys last zs u, Burst settings.window xs ys last →
    (start settings now captured).Run (xs ++ ys ++ zs) u →
    (∀ y ∈ ys, y.isReload = false) ∧
      ∀ z ∈ zs, z.isReload = true → last + settings.window ≤ z.begun
  /-- After a reload that succeeds there is no other as long as the state stays. -/
  at_most_one : ∀ xs begun ended state ys u, (start settings now captured).Run
      (xs ++ .reloaded begun ended (some state) :: ys) u →
    (∀ y ∈ ys, y.ShowsOnly state) → ∀ y ∈ ys, y.isReload = false
  /-- If the state stays as it was polled last in a burst, and the reload for it succeeds, this is
  the only one. -/
  exactly_one : settings.poll ≠ 0 → ∀ xs ys last state acts states,
    Burst settings.window xs ys last →
    (start settings now captured).Run (xs ++ ys) (states 0) → Endless acts states →
    lastPolled (xs ++ ys) = some state → (∀ n, (acts n).ShowsOnly state) →
    (∀ n, (acts n).isReload = true → (∀ k < n, (acts k).isReload = false) →
      ∃ begun ended, acts n = .reloaded begun ended (some state)) →
    ¬ Shown captured xs ys →
    ∃ n, (acts n).isReload = true ∧ last + settings.window ≤ (acts n).begun ∧
      ∀ k, (acts k).isReload = true → k = n
  /-- If the burst is a single change that had been captured before it was polled, there is
  none. -/
  none_of_shown : ∀ xs ys last state acts states, Burst settings.window xs ys last →
    (start settings now captured).Run (xs ++ ys) (states 0) → Endless acts states →
    lastPolled (xs ++ ys) = some state → (∀ n, (acts n).ShowsOnly state) →
    Shown captured xs ys → ∀ n, (acts n).isReload = false

theorem waitsToSettle : WaitsToSettle settings now captured where
  detected_le_begun xs x ys u hrun hx ended hended := Run.detected_le_begun hrun hx hended
  burst_le_begun xs ys last zs u hburst hrun := by
    obtain ⟨s, hbefore, -⟩ := hrun.split
    exact ⟨hburst.isReload_eq_false hbefore, hburst.le_begun hrun⟩
  at_most_one xs begun ended state ys u hrun hshows := by
    obtain ⟨s, -, hrest⟩ := hrun.split
    cases hrest with
    | step hx hys => exact Run.isReload_eq_false_of_settled hys hx.settled_of_reloaded hshows
  exactly_one hpoll xs ys last state acts states hburst hrun h hpolled hacts hfirst hshown := by
    have hseen := Option.some.inj ((hburst.lastPolled_eq hrun).symm.trans hpolled)
    have hsettings := hrun.waits.settings_eq.1
    obtain ⟨n, hn, honly⟩ := h.existsUnique_isReload hacts hfirst
      (h.exists_isReload (hsettings ▸ hpoll) (hburst.deadline?_eq hrun hshown) hseen hacts)
    refine ⟨n, hn, ?_, honly⟩
    refine hburst.le_begun (hrun.append (h.run_take (n + 1))) (acts n) ?_ hn
    exact List.mem_map.mpr ⟨n, by simp, rfl⟩
  none_of_shown xs ys last state acts states hburst hrun h hpolled hacts hshown n := by
    have hseen := Option.some.inj ((hburst.lastPolled_eq hrun).symm.trans hpolled)
    have hs := hburst.settled hrun hshown
    rw [hseen] at hs
    exact h.isReload_eq_false_of_settled hs hacts n n.zero_le

end Poller

/-! ## The program -/

namespace ClusterWatch

variable {m : Type → Type} [Monad m] [Clock m] {W : Type} [Runs m W] {source : StateSource m}
  {time : W → Nat}

theorem nextPoll_le_of_poll {w : ClusterWatch} (h : w.due.1 = .poll) {deadline : Nat}
    (hdeadline : w.debouncer.deadline? = some deadline) : w.nextPoll ≤ deadline := by
  by_contra hlate
  rw [due, hdeadline] at h
  dsimp only at h
  rw [if_pos (Nat.lt_of_not_le hlate)] at h
  cases h

/-- The program takes what has been due for longer. -/
theorem not_overtaken_act (w : ClusterWatch) (v : W) (now : Nat) :
    ¬ Poller.Overtaken ⟨w, now⟩ (w.act source time v) := by
  rintro ⟨hpoll, deadline, hdeadline, hlt⟩
  cases hdue : w.due.1 with
  | poll => exact absurd (nextPoll_le_of_poll hdue hdeadline) (Nat.not_le_of_lt hlt)
  | reload =>
    unfold act at hpoll
    rw [hdue] at hpoll
    dsimp only at hpoll
    split at hpoll <;> cases hpoll

/-- Turns of the program, one after the other for ever, are an endless run. -/
theorem endless_of_turns (hclock : Timekeeping m time) (hsource : source.GoesForward time)
    {w : Nat → ClusterWatch} {v u : Nat → W} {now : Nat} (hnow : now ≤ time (v 0))
    (hturn : ∀ n, run (ClusterWatcher.turn source (.running (w n))) (v n) =
      (.running (w (n + 1)), u n))
    (hidle : ∀ n, time (u n) ≤ time (v (n + 1))) :
    Poller.Endless (fun n => (w n).act source time (v n))
      fun n => ⟨w n, n.casesOn now fun n => time (u n)⟩ where
  step n := by
    have hturn' := hturn n
    rw [run_turn_running] at hturn'
    obtain ⟨hwatch, hafter⟩ := Prod.mk.inj hturn'
    have hstep := fun since (hsince : since ≤ time (v n)) =>
      step_turnWatch hclock hsource (w n) (v n) hsince
    rw [ClusterWatcher.running.inj hwatch, hafter] at hstep
    cases n with
    | zero => exact hstep now hnow
    | succ n => exact hstep (time (u n)) (hidle n)
  fair n := ⟨n, le_rfl, not_overtaken_act (w n) (v n) _⟩

end ClusterWatch

/-- A watcher begins with a capture, each of its turns is a step, and its turns for ever are an
endless run.  In every run a reload waits for one window after each change that was detected.
Changes that are detected one soon after the other have no reload called before one window after
the last of them, and exactly one in the end, if it succeeds and the state stays. -/
theorem reloads_wait_to_settle {m : Type → Type} [Monad m] [Clock m] {W : Type} [Runs m W]
    {time : W → Nat} (hclock : Timekeeping m time) {source : StateSource m}
    (hsource : source.GoesForward time) :
    (∀ settings v, settings.poll ≠ 0 →
      run (ClusterWatcher.turn source (.starting settings)) v =
        let looked := run source.capture v
        (.running (Poller.start settings (time looked.2) looked.1).watch, looked.2)) ∧
    (∀ (w : ClusterWatch) v now, now ≤ time v → ∃ w' v',
      run (ClusterWatcher.turn source (.running w)) v = (.running w', v') ∧
      Poller.Step ⟨w, now⟩ (w.act source time v) ⟨w', time v'⟩) ∧
    (∀ (w : Nat → ClusterWatch) (v u : Nat → W) now, now ≤ time (v 0) →
      (∀ n, run (ClusterWatcher.turn source (.running (w n))) (v n) =
        (.running (w (n + 1)), u n)) →
      (∀ n, time (u n) ≤ time (v (n + 1))) →
      ∃ states, states 0 = ⟨w 0, now⟩ ∧
        Poller.Endless (fun n => (w n).act source time (v n)) states) ∧
    ∀ settings now captured, Poller.WaitsToSettle settings now captured := by
  refine ⟨fun settings v h => ClusterWatch.run_turn_starting hclock h v,
    fun w v now hnow => ⟨_, _, ClusterWatch.run_turn_running w v,
      ClusterWatch.step_turnWatch hclock hsource w v hnow⟩,
    fun w v u now hnow hturn hidle => ?_,
    fun settings now captured => Poller.waitsToSettle⟩
  exact ⟨_, rfl, ClusterWatch.endless_of_turns hclock hsource hnow hturn hidle⟩

/-! ## Two changes and one reload -/

/-- Two polls find two changes, one second apart. -/
def changes : List Poller.Act :=
  [.poll 1000 1000 (some grownState), .poll 2000 2000 (some lateState)]

/-- Another poll finds the same, the cluster is reloaded, and stays the same from then on. -/
def quietActs : Nat → Poller.Act
  | 0 => .poll 3000 3000 (some lateState)
  | 1 => .reloaded 3500 3500 (some lateState)
  | n + 2 => .poll (1000 * n + 4000) (1000 * n + 4500) (some lateState)

/-- How the watch stands before each of these. -/
def quietPollers : Nat → Poller
  | 0 => latePoller plainState lateState 2000 3000 (some 3500)
  | 1 => latePoller plainState lateState 3000 4000 (some 3500)
  | n + 2 => latePoller lateState lateState (1000 * n + 3500) (1000 * n + 4000) none

/-- A poll finds what is known already. -/
theorem step_known {now due ended : Nat} (hnow : now ≤ due) (hend : due ≤ ended) :
    (latePoller lateState lateState now due none).Step (.poll due ended (some lateState))
      (latePoller lateState lateState ended (due + 1000) none) := by
  have hstep := @Poller.Step.poll (latePoller lateState lateState now due none).watch now due ended
    (some lateState) hnow le_rfl hend
  rw [ClusterWatch.beginPoll_of_due (Nat.le_add_right due _)] at hstep
  exact hstep

theorem step_quiet (n : Nat) : (quietPollers n).Step (quietActs n) (quietPollers (n + 1)) := by
  match n with
  | 0 => exact @Poller.Step.poll _ _ 3000 3000 _ (by decide) (by decide) (by decide)
  | 1 => exact @Poller.Step.reloaded _ _ 3500 3500 3500 _ (by decide) rfl (by decide) (by decide)
  | n + 2 =>
    exact @step_known (1000 * n + 3500) (1000 * n + 4000) (1000 * n + 4500) (by omega) (by omega)

/-- Two changes have one reload called, one window after the second or later. -/
theorem reloads_wait_to_settle_once :
    Timekeeping (StateM Simulation.ScriptedCluster) Simulation.ScriptedCluster.timeOf ∧
      Simulation.ScriptedCluster.source.GoesForward Simulation.ScriptedCluster.timeOf ∧
      Poller.Burst 1500 [] changes 2000 ∧
      (Poller.start ⟨1000, 1500⟩ 0 (some plainState)).Run changes (quietPollers 0) ∧
      Poller.Endless quietActs quietPollers ∧
      ∃ n, (quietActs n).isReload = true ∧ 2000 + 1500 ≤ (quietActs n).begun ∧
        ∀ k, (quietActs k).isReload = true → k = n := by
  have hclock := Simulation.ScriptedCluster.timekeeping
  have hsource := Simulation.ScriptedCluster.goesForward
  have hburst : Poller.Burst 1500 [] changes 2000 :=
    @Poller.Burst.next _ _ _ [] _ _ (.first ⟨1000, 1000, grownState, rfl, by decide⟩)
      ⟨2000, 2000, lateState, rfl, by decide⟩ (by decide)
  have hrun : (Poller.start ⟨1000, 1500⟩ 0 (some plainState)).Run changes (quietPollers 0) :=
    run_found.append (.step (@Poller.Step.poll _ _ 2000 2000 _ (by decide) (by decide) (by decide))
      .done)
  have hendless : Poller.Endless quietActs quietPollers :=
    ⟨step_quiet, fun n => ⟨n + 2, by omega, fun ⟨_, _, hdeadline, _⟩ => nomatch hdeadline⟩⟩
  have hshows : ∀ n, (quietActs n).ShowsOnly lateState := by
    intro n
    match n with
    | 0 | 1 | n + 2 => exact fun found hfound => (Option.some.inj hfound).symm
  have hfirst : ∀ n, (quietActs n).isReload = true → (∀ k < n, (quietActs k).isReload = false) →
      ∃ begun ended, quietActs n = .reloaded begun ended (some lateState) := by
    intro n hn _
    match n with
    | 0 | n + 2 => cases hn
    | 1 => exact ⟨3500, 3500, rfl⟩
  obtain ⟨-, -, -, hwaits⟩ := reloads_wait_to_settle hclock hsource
  exact ⟨hclock, hsource, hburst, hrun, hendless,
    (hwaits ⟨1000, 1500⟩ 0 (some plainState)).exactly_one (by decide) [] changes 2000 lateState
      quietActs quietPollers hburst hrun hendless rfl hshows hfirst fun ⟨_, he, _⟩ => nomatch he⟩

end FleetGate
