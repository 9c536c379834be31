import FleetGate.Proofs.HubLives
import FleetGate.Proofs.Targets

/-!
# How long the watch waits

When a stream of changes has ended, the next one is opened at once or after a delay.  The delay
is one second after the first failure, twice as long after each further one, and five minutes
at most.  Whatever is delivered ends the row of failures.

* `failuresSince` counts the failures since something was delivered, in all that has happened.
* `Follower.Step.backoff` says that the delay to come depends on this count alone
  (`Backoff.grown`), and so it is all life long (`HubProvider.Life.backoff`).
* `record_cases` takes the last happening of a turn from the others.  It decides how the turn
  goes on.
* `waits_as_failures_say` is the time at which the next stream is opened.
-/

namespace FleetGate

open Runs (run)

/-! ## Rows of failures -/

namespace Happening

/-- Something was delivered. -/
def isDelivery : Happening → Bool
  | .line (.event (.failed _)) => false
  | .line (.event _) => true
  | _ => false

/-- Something failed.  A version that the hub does not go back to is no failure. -/
def isFailure : Happening → Bool
  | .refused => true
  | .line (.event (.failed s)) => s.code != Membership.goneCode
  | .line (.failure (.status s)) => s.code != Membership.goneCode
  | .line (.failure _) => true
  | .unlisted => true
  | _ => false

/-- A stream is over, or the clusters were listed anew. -/
def isEnd : Happening → Bool
  | .closed => true
  | .listed _ => true
  | _ => false

end Happening

/-- How many things have failed since something was delivered. -/
def failuresSince (xs : List Happening) : Nat :=
  (xs.reverse.takeWhile fun x => !x.isDelivery).countP Happening.isFailure

/-- How many seconds the next stream waits after all this.  `none` while one is open. -/
def secondsAfter (xs : List Happening) : Option Nat :=
  match xs.getLast? with
  | none => none
  | some x =>
      if x.isFailure then some (min (Nat.pow 2 (failuresSince xs - 1)) 300)
      else if x.isEnd then some 0
      else none

/-- A delivery ends a row of failures, and anything else goes on with it. -/
theorem failuresSince_append (xs : List Happening) (x : Happening) :
    failuresSince (xs ++ [x]) =
      if x.isDelivery then 0 else failuresSince xs + if x.isFailure then 1 else 0 := by
  unfold failuresSince
  rw [List.reverse_append, List.reverse_singleton, List.singleton_append, List.takeWhile_cons]
  by_cases hx : x.isDelivery <;> simp [hx, List.countP_cons]

/-- After a failure the wait is as long as the row of failures before it says. -/
theorem secondsAfter_of_failure {xs : List Happening} {x : Happening} (hf : x.isFailure = true)
    (hd : x.isDelivery = false) :
    secondsAfter (xs ++ [x]) = some (min (Nat.pow 2 (failuresSince xs)) 300) := by
  have hcount : failuresSince (xs ++ [x]) = failuresSince xs + 1 := by
    simp [failuresSince_append, hf, hd]
  simp only [secondsAfter, List.getLast?_concat, hf, hcount, Nat.add_sub_cancel, if_true]

theorem secondsAfter_of_end {xs : List Happening} {x : Happening} (hf : x.isFailure = false)
    (hx : x.isEnd = true) : secondsAfter (xs ++ [x]) = some 0 := by
  simp [secondsAfter, hf, hx]

/-! ## The delay to come -/

namespace Backoff

/-- The growing delay after so many failures in a row. -/
def grown (n : Nat) : Backoff :=
  { standard with current := min (Nat.pow 2 n) 300 * Nanos.perSecond }

theorem pow_ge (n : Nat) (h : 9 ≤ n) : 300 ≤ Nat.pow 2 n := by
  have hpow : Nat.pow 2 9 ≤ Nat.pow 2 n := Nat.pow_le_pow_right (by decide) h
  exact Nat.le_trans (by decide) hpow

/-- Each failure doubles the delay, up to the limit. -/
theorem next_grown (n : Nat) :
    (grown n).next = some (min (Nat.pow 2 n) 300 * Nanos.perSecond, grown (n + 1)) := by
  have hfirst : ∀ k : Fin 10, (grown k).next =
      some (min (Nat.pow 2 k) 300 * Nanos.perSecond, grown (k + 1)) := by decide +kernel
  by_cases hn : n < 10
  · exact hfirst ⟨n, hn⟩
  · -- from here on the delay stands at its limit
    have hgrown : ∀ k, 9 ≤ k → grown k = grown 9 := fun k hk => by
      rw [grown, Nat.min_eq_right (pow_ge k hk)]
      rfl
    rw [hgrown n (by omega), hgrown (n + 1) (by omega), Nat.min_eq_right (pow_ge n (by omega))]
    exact hfirst 9

end Backoff

theorem Membership.fail_of_grown {μ : Type} {k : Membership μ} {n : Nat}
    (h : k.backoff = .grown n) :
    k.fail = (min (Nat.pow 2 n) 300 * Nanos.perSecond, { k with backoff := .grown (n + 1) }) := by
  unfold fail
  rw [h, Backoff.next_grown]

namespace Membership

variable {μ : Type} {k k' : Membership μ} {line : WatchLine}

theorem isDelivery_of_deliver {effect : Effect μ} (h : k.deliver line = .ok (effect, k')) :
    (Happening.line line).isDelivery = true := by
  obtain ⟨-, ⟨o, rfl | rfl, -⟩ | ⟨o, rfl, -⟩ | ⟨version, rfl, -⟩⟩ := deliver_cases h <;> rfl

/-- A line that ends a stream delivers nothing, and fails unless the version has expired. -/
theorem ending_cases {ending : Ending} (h : k.deliver line = .error ending) :
    (Happening.line line).isDelivery = false ∧ (Happening.line line).isEnd = false ∧
      (ending = .failed ∧ (Happening.line line).isFailure = true ∨
        ending = .expired ∧ (Happening.line line).isFailure = false) := by
  have hstatus : ∀ s : ApiStatus, endingOf s = ending →
      (ending = .failed ∧ (s.code != goneCode) = true ∨
        ending = .expired ∧ (s.code != goneCode) = false) := by
    rintro s rfl
    unfold endingOf
    by_cases hs : s.code = goneCode <;> simp [hs]
  match line with
  | .event (.added o) | .event (.modified o) | .event (.deleted o) => cases h
  | .event (.bookmark version) => cases h
  | .event (.failed s) => exact ⟨rfl, rfl, hstatus s (Except.error.inj h)⟩
  | .failure (.status s) => exact ⟨rfl, rfl, hstatus s (Except.error.inj h)⟩
  | .failure (.refused _) | .failure (.service _) | .failure (.undecodable _)
  | .failure .unaskable =>
    cases h
    exact ⟨rfl, rfl, Or.inl ⟨rfl, rfl⟩⟩

end Membership

namespace Follower

variable {μ : Type} {f f' : Follower μ} {x : Happening} {xs ys : List Happening}

/-- The delay to come depends on the failures since something was delivered. -/
theorem Step.backoff (h : f.Step x f') (hf : f.membership.backoff = .grown (failuresSince xs)) :
    f'.membership.backoff = .grown (failuresSince (xs ++ [x])) := by
  rw [failuresSince_append]
  cases h with
  | elsewhere => simpa [Happening.isDelivery, Happening.isFailure] using hf
  | refused =>
    rw [Membership.fail_of_grown hf]
    rfl
  | opened => simpa [Happening.isDelivery, Happening.isFailure] using hf
  | delivered hd =>
    rw [if_pos (Membership.isDelivery_of_deliver hd), (Membership.deliver_cases hd).1, hf]
    rfl
  | ended ending hd =>
    obtain ⟨hdelivery, -, ⟨rfl, hfailure⟩ | ⟨rfl, hfailure⟩⟩ := Membership.ending_cases hd
    · simp only [hdelivery, hfailure, Membership.Ending.leave, Membership.fail_of_grown hf]
      rfl
    · simpa [hdelivery, hfailure, Membership.Ending.leave] using hf
  | closed => simpa [Happening.isDelivery, Happening.isFailure, Membership.Ending.leave] using hf
  | listed => exact hf
  | unlisted =>
    rw [Membership.fail_of_grown (k := Membership.forgetVersion _) hf]
    rfl

/-- So it does after any number of happenings. -/
theorem Run.backoff (h : f.Run ys f') (hf : f.membership.backoff = .grown (failuresSince xs)) :
    f'.membership.backoff = .grown (failuresSince (xs ++ ys)) := by
  induction h generalizing xs with
  | done => rwa [List.append_nil]
  | step hs _ ih =>
    rw [List.append_cons]
    exact ih (hs.backoff hf)

end Follower

/-- The delay to come depends on the failures since something was delivered, all life long. -/
theorem HubProvider.Life.backoff {p : HubProvider} {xs : List Happening} (h : p.Life xs) :
    p.membership.backoff = .grown (failuresSince xs) := by
  induction h with
  | listed list hk =>
    rw [hk]
    rfl
  | heard _ _ hs ih => exact hs.backoff ih
  | seated _ _ hseat ih =>
    obtain ⟨-, held, t, -, rfl⟩ := seat_cases hseat
    exact ih
  | worked _ _ _ ih => exact ih
  | watched _ ih => exact ih
  | drained _ ih => exact ih
  | went _ _ hk ih =>
    rw [hk]
    exact ih

/-! ## The end of a turn -/

/-- The last line of a stream decides how it ends. -/
theorem Membership.happenings_cases {μ : Type} (lines : List WatchLine) (k : Membership μ) :
    ∃ ys x, k.happenings lines = ys ++ [x] ∧
      Follower.Run ⟨.reading, k⟩ ys ⟨.reading, (k.hear lines).2⟩ ∧
      Follower.Step ⟨.reading, (k.hear lines).2⟩ x ((k.hear lines).1.leave (k.hear lines).2) ∧
      ((k.hear lines).1 = .clean ∧ x.isFailure = false ∧ x.isEnd = true ∨
        (k.hear lines).1 = .failed ∧ x.isFailure = true ∧ x.isDelivery = false ∨
        (k.hear lines).1 = .expired) := by
  induction lines generalizing k with
  | nil => exact ⟨[], .closed, rfl, .done, .closed, Or.inl ⟨rfl, rfl, rfl⟩⟩
  | cons line lines ih =>
    unfold happenings hear
    cases hd : k.deliver line with
    | error ending =>
      refine ⟨[], .line line, rfl, .done, .ended ending hd, Or.inr ?_⟩
      obtain ⟨hdelivery, -, ⟨rfl, hfailure⟩ | ⟨rfl, -⟩⟩ := ending_cases hd
      · exact Or.inl ⟨rfl, hfailure, hdelivery⟩
      · exact Or.inr rfl
    | ok delivered =>
      obtain ⟨ys, x, hys, hrun, hrest⟩ := ih delivered.2
      exact ⟨.line line :: ys, x, congrArg (.line line :: ·) hys, .step (.delivered hd) hrun, hrest⟩

namespace HubProvider

variable {m : Type → Type} [Monad m] [Network m] {W : Type} [Runs m W] {p q : HubProvider}
  {xs : List Happening} {w : W}

/-- A turn leaves a stream open, or its last happening decides how it goes on. -/
theorem record_cases (reload : m Bool) (p : HubProvider) (w : W) (h : p.topology.Reachable) :
    (p.record reload w = [.opened p.topology.version] ∧
      (run (turnWatch reload) (p, w)).2.1.watch = .silent) ∨
    ∃ ys x, ∃ f : Follower Manager, ∃ q : HubProvider, ∃ v : W,
      p.record reload w = ys ++ [x] ∧ Follower.Run ⟨.idle, p.membership⟩ ys f ∧
      (x.isFailure = true ∧ x.isDelivery = false ∧
        q.membership.backoff = f.membership.backoff ∧
        run (turnWatch reload) (p, w) = run (backOff (m := m)) (q, v) ∨
      x.isFailure = false ∧ x.isEnd = true ∧
        run (turnWatch reload) (p, w) = run (openNow (m := m)) (q, v)) := by
  rw [run_turn reload p w h]
  have hk := membership_openStream (m := m) p w
  unfold record turn
  generalize run (openStream (m := m)) (p, w) = opened at hk ⊢
  match opened, hk with
  | (.error e, p', w'), (hk : p'.membership = p.membership) =>
    exact Or.inr ⟨[], .refused, _, p', w', rfl, .done, Or.inl ⟨rfl, rfl, congrArg _ hk, rfl⟩⟩
  | (.ok none, p', w'), _ => exact Or.inl ⟨rfl, rfl⟩
  | (.ok (some reply), p', w'), _ =>
    refine Or.inr ?_
    dsimp only
    obtain ⟨ys, x, hys, hrun, hstep, hend⟩ :=
      Membership.happenings_cases (WatchLine.ofReply reply) p.membership
    rw [hys]
    generalize p.membership.hear (WatchLine.ofReply reply) = heard at hrun hstep hend ⊢
    obtain ⟨ending, k⟩ := heard
    rcases hend with ⟨rfl, hfailure, hx⟩ | ⟨rfl, hfailure, hdelivery⟩ | rfl
    · exact ⟨.opened p.topology.version :: ys, x, _, _, _, by simp, .step .opened hrun,
        Or.inr ⟨hfailure, hx, rfl⟩⟩
    · exact ⟨.opened p.topology.version :: ys, x, _, _, _, by simp, .step .opened hrun,
        Or.inl ⟨hfailure, hdelivery, rfl, rfl⟩⟩
    · dsimp only
      have hexpired := hrun.append (.step hstep .done)
      generalize run (listClusters (m := m)) ({ p' with membership := k },
        (reloaded reload)^[p.membership.changes (WatchLine.ofReply reply)] w') = listed
      match listed with
      | (.error e, s) =>
        exact ⟨.opened p.topology.version :: (ys ++ [x]), .unlisted, _, _, _, rfl,
          .step .opened hexpired, Or.inl ⟨rfl, rfl, rfl, rfl⟩⟩
      | (.ok list, s) =>
        exact ⟨.opened p.topology.version :: (ys ++ [x]), .listed list, _, _, _, rfl,
          .step .opened hexpired, Or.inr ⟨rfl, rfl, rfl⟩⟩

theorem run_openNow (q : HubProvider) (v : W) :
    run (openNow (m := m)) (q, v) =
      let now := run (Clock.now : m Nat) v
      (⟨⟩, { q with watch := .opening now.1 }, now.2) := by
  have hnow : run (Clock.now : StateT HubProvider m Nat) (q, v) =
      ((run (Clock.now : m Nat) v).1, q, (run (Clock.now : m Nat) v).2) := Runs.run_lift _ _
  rw [openNow, Runs.run_bind, hnow, Runs.run_modify]

theorem run_backOff {n : Nat} (h : q.membership.backoff = .grown n) (v : W) :
    run (backOff (m := m)) (q, v) =
      let now := run (Clock.now : m Nat) v
      (⟨⟩, { q with
          membership := { q.membership with backoff := .grown (n + 1) }
          watch := .opening (now.1 + 1000 * min (Nat.pow 2 n) 300) }, now.2) := by
  have hnow : run (Clock.now : StateT HubProvider m Nat) (q, v) =
      ((run (Clock.now : m Nat) v).1, q, (run (Clock.now : m Nat) v).2) := Runs.run_lift _ _
  have htime : ∀ now seconds : Nat,
      Limiter.nextMilli (Nanos.ofMillis now + seconds * Nanos.perSecond) =
        now + 1000 * seconds := by
    intro now seconds
    simp only [Limiter.nextMilli, Nanos.ofMillis, Nanos.perMilli, Nanos.perSecond]
    omega
  rw [backOff, Runs.run_bind, hnow, Runs.run_modify]
  simp only [Membership.fail_of_grown h, htime]

/-- The next stream is opened at a time, as soon as it is due. -/
structure OpensAt (q : HubProvider) (time : Nat) : Prop where
  watch_eq : q.watch = .opening time
  /-- At any time it is the next thing to be done, unless the watcher of the hub comes first. -/
  due (now : Nat) : ∃ next, q.due? now = some next ∧
    (next = (.stream, max now time) ∨ next.1 = .hub ∧ next.2 ≤ max now time)

theorem opensAt_of_watch {time : Nat} (h : q.watch = .opening time) : q.OpensAt time := by
  refine ⟨h, fun now => ?_⟩
  unfold due?
  rw [h]
  cases q.hub.watcher?.bind (·.due? now) with
  | none => exact ⟨_, rfl, Or.inl rfl⟩
  | some at? =>
    by_cases hle : at? ≤ max now time
    · exact ⟨(.hub, at?), by simp [hle], Or.inr ⟨rfl, hle⟩⟩
    · exact ⟨(.stream, max now time), by simp [hle], Or.inl rfl⟩

end HubProvider

/-- In all the life of a provider, whatever has been heard of its clusters, each turn of the
watch leaves a stream open or ends at a time from which the next one waits as long as the
failures since the last delivery say. -/
theorem waits_as_failures_say {m : Type → Type} [Monad m] [Network m] {W : Type} [Runs m W]
    {p : HubProvider} {xs : List Happening} (h : p.Life xs) (reload : m Bool) (w : W) :
    let heard := xs ++ p.record reload w
    let done := run (HubProvider.turnWatch reload) (p, w)
    done.2.1.Life heard ∧ (secondsAfter heard = none → done.2.1.watch = .silent) ∧
      ∀ seconds, secondsAfter heard = some seconds →
        ∃ now v, run (Clock.now : m Nat) v = (now, done.2.2) ∧
          done.2.1.OpensAt (now + 1000 * seconds) := by
  intro heard done
  refine ⟨h.turnWatch reload, ?_⟩
  obtain ⟨hrecord, hsilent⟩ | ⟨ys, x, f, q, v, hrecord, hrun, hend⟩ :=
    HubProvider.record_cases reload p w h.reachable
  · have hnone : secondsAfter heard = none := by
      simp [heard, hrecord, secondsAfter, Happening.isFailure, Happening.isEnd]
    exact ⟨fun _ => hsilent, fun seconds hs => nomatch hnone.symm.trans hs⟩
  · have hlast : heard = (xs ++ ys) ++ [x] := by simp [heard, hrecord]
    have hbackoff : f.membership.backoff = .grown (failuresSince (xs ++ ys)) :=
      hrun.backoff h.backoff
    -- the delay is taken from the state before the last happening
    rcases hend with ⟨hfailure, hdelivery, hq, hdone⟩ | ⟨hfailure, hx, hdone⟩
    · have hdone : done = _ := hdone.trans (HubProvider.run_backOff (hq.trans hbackoff) v)
      rw [hlast, secondsAfter_of_failure hfailure hdelivery, hdone]
      refine ⟨nofun, fun seconds hs => ?_⟩
      cases hs
      exact ⟨_, v, rfl, HubProvider.opensAt_of_watch rfl⟩
    · have hdone : done = _ := hdone.trans (HubProvider.run_openNow q v)
      rw [hlast, secondsAfter_of_end hfailure hx, hdone]
      refine ⟨nofun, fun seconds hs => ?_⟩
      cases hs
      exact ⟨_, v, rfl, HubProvider.opensAt_of_watch rfl⟩

theorem secondsAfter_refused :
    secondsAfter ([] ++ pairProvider.record (m := Simulation.Simulated) Simulation.reload
      ({}, ())) = some 1 := by
  decide +kernel

/-- A hub that cannot be reached refuses the first stream, and the second waits a second. -/
theorem second_stream_waits :
    pairProvider.Life [] ∧ ∃ now v,
      run (Clock.now : Simulation.Simulated Nat) v =
        (now, (run (HubProvider.turnWatch Simulation.reload) (pairProvider, ({}, ()))).2.2) ∧
      (run (HubProvider.turnWatch Simulation.reload) (pairProvider, ({}, ()))).2.1.OpensAt
        (now + 1000 * 1) := by
  have hlife : pairProvider.Life [] := .listed ⟨some "2", [ownCluster, otherCluster]⟩ rfl
  obtain ⟨-, -, hwaits⟩ := waits_as_failures_say hlife Simulation.reload ({}, ())
  specialize hwaits 1
  have hsecond := hwaits secondsAfter_refused
  exact ⟨hlife, hsecond⟩

end FleetGate
