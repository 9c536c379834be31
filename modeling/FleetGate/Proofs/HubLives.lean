import FleetGate.Proofs.Followers
import FleetGate.Proofs.Makes
import FleetGate.Proofs.Seats

/-!
# The life of a hub's provider

The provider of a hub serves callers, follows the clusters and is closed, all at the same time.
What it does to its own state it does in sections that nothing comes between.

* `HubProvider.Life` has one rule for each section.  It keeps the list of what was heard of
  the clusters.
* In all its life the provider holds in each slot a manager that was built for the cluster of
  the slot (`Life.fits`).
* Whatever the provider does is made of sections, so its life goes on (`Life.withHandle`,
  `Life.turnWatch`, `Life.runTo` and others), and it begins when the provider is created
  (`Life.of_create`).
-/

namespace FleetGate

open Runs (run)

namespace HubProvider

/-- The sections of a provider's life, and what it has heard of its clusters. -/
inductive Life : List Happening → HubProvider → Prop where
  /-- It begins with a list of the clusters. -/
  | listed {p : HubProvider} (list : ApiList) :
      p.membership = (({} : Membership Manager).relist list).2 → Life [] p
  /-- Something is heard of the clusters. -/
  | heard {xs : List Happening} {p : HubProvider} {x : Happening} {stage stage' : Stage}
      {k : Membership Manager} :
      Life xs p → x ≠ .elsewhere → Follower.Step ⟨stage, p.membership⟩ x ⟨stage', k⟩ →
      Life (xs ++ [x]) { p with membership := k }
  /-- A manager that was built for a cluster is seated. -/
  | seated {xs : List Happening} {p q : HubProvider} {cluster : String} {g : Manager}
      {seat : Seat} :
      Life xs p → p.build cluster = .ok g → p.seat cluster g = .ok (seat, q) → Life xs q
  /-- The manager of a cluster has done something. -/
  | worked {xs : List Happening} {p : HubProvider} {cluster : String} {g g' : Manager} :
      Life xs p → p.topology.held? cluster = some g → g.SameMake g' →
      Life xs (p.setManager g' (.spoke cluster))
  /-- Watching has begun. -/
  | watched {xs : List Happening} {p : HubProvider} :
      Life xs p → Life xs (p.setTopology { p.topology with isWatched := true })
  /-- All managers of clusters were closed. -/
  | drained {xs : List Happening} {p : HubProvider} :
      Life xs p → Life xs (p.setTopology p.topology.drain.2)
  /-- Something has happened that has nothing to do with the clusters. -/
  | went {xs : List Happening} {p q : HubProvider} :
      Life xs p → p.SameHub q → q.membership = p.membership → Life xs q

end HubProvider

/-- What lasts whatever is heard of the clusters lasts through what is heard. -/
theorem Follower.Step.lasts {μ : Type} {P : Topology μ → Prop} (hP : Membership.Lasts P)
    {f f' : Follower μ} {x : Happening} (h : f.Step x f') (hx : x ≠ .elsewhere)
    (hf : P f.membership.topology) : P f'.membership.topology := by
  cases h with
  | elsewhere => exact absurd rfl hx
  | refused =>
    rw [Membership.topology_fail]
    exact hf
  | opened => exact hf
  | delivered hd => exact hP.deliver hd hf
  | ended =>
    rw [Membership.Ending.topology_leave]
    exact hf
  | closed => exact hf
  | listed => exact hP.replace _ _ hf
  | unlisted =>
    rw [Membership.topology_fail]
    exact hP.note "" hf

theorem Membership.elsewhere_not_mem_happenings {μ : Type} {k : Membership μ}
    {lines : List WatchLine} : Happening.elsewhere ∉ k.happenings lines := by
  induction lines generalizing k with
  | nil => simp [happenings]
  | cons line lines ih =>
    unfold happenings
    cases k.deliver line with
    | error ending => simp
    | ok delivered => simpa using ih

namespace HubProvider

variable {p q : HubProvider} {xs ys : List Happening} {seat : Seat} {target : String}

/-- Each slot that is filled holds a manager of the make that its cluster gets. -/
def Fits (make : String → Except FleetError Manager) (t : Topology Manager) : Prop :=
  ∀ cluster g, t.held? cluster = some g → ∃ built, make cluster = .ok built ∧ built.SameMake g

/-- Who is in a slot was made for its cluster, whatever is heard. -/
theorem Fits.lasts (make : String → Except FleetError Manager) :
    Membership.Lasts (Fits make) where
  upsert _ _ h cluster g hg := h cluster g (by simpa using hg)
  remove _ _ h cluster g hg := by
    rw [Topology.held?_remove] at hg
    split at hg
    · cases hg
    · exact h cluster g hg
  replace _ _ _ h cluster g hg := h cluster g (Topology.held?_of_replace hg)
  note _ _ h := h

/-- A seat where a manager sits. -/
def Taken (p : HubProvider) : Seat → Prop
  | .hub => True
  | .spoke cluster => (p.topology.held? cluster).isSome = true

theorem elsewhere_not_mem_record {m : Type → Type} [Monad m] [Network m] {W : Type} [Runs m W]
    {reload : m Bool} {w : W} : Happening.elsewhere ∉ p.record reload w := by
  unfold record
  split
  · simp
  · simp
  · simp only [List.mem_cons, List.mem_append, reduceCtorEq, false_or, not_or]
    refine ⟨Membership.elsewhere_not_mem_happenings, ?_⟩
    split
    · simp
    · simp
    · split <;> simp

/-- To do what is due is to wait for it, to do it, and to go on. -/
theorem run_runTo_succ {m : Type → Type} [Monad m] [Network m] {W : Type} [Runs m W]
    (reload : m Bool) (time limit : Nat) (p : HubProvider) (w : W) :
    run (runTo reload time (limit + 1)) (p, w) =
      let now := run (Clock.now : m Nat) w
      match p.due? now.1 with
      | none => (⟨⟩, p, now.2)
      | some (due, at?) =>
          if time < at? then (⟨⟩, p, now.2)
          else
            let s := (p, (run (Clock.waitUntil at? : m Unit) now.2).2)
            run (runTo reload time limit) (match due with
              | .hub => run (onSeat .hub (Manager.runTo reload at? 1)) s
              | .stream => run (turnWatch reload) s).2 := by
  have hnow : run (Clock.now : StateT HubProvider m Nat) (p, w) =
      ((run (Clock.now : m Nat) w).1, p, (run (Clock.now : m Nat) w).2) := Runs.run_lift _ _
  rw [runTo, Runs.run_bind, Runs.run_get, Runs.run_bind, hnow]
  dsimp only
  match p.due? (run (Clock.now : m Nat) w).1 with
  | none => exact Runs.run_pure _ _
  | some (due, at?) =>
    have hwait : ∀ v, run (Clock.waitUntil at? : StateT HubProvider m Unit) (p, v) =
        ((run (Clock.waitUntil at? : m Unit) v).1, p, (run (Clock.waitUntil at? : m Unit) v).2) :=
      fun v => Runs.run_lift _ _
    dsimp only
    split
    · exact Runs.run_pure _ _
    · rw [Runs.run_bind, hwait]
      cases due with
      | hub => exact Runs.run_bind _ _ _
      | stream => exact Runs.run_bind _ _ _

namespace Life

/-- What a provider knows of clusters is what it has heard. -/
theorem reachable (h : Life xs p) : p.topology.Reachable := by
  induction h with
  | listed list hk =>
    rw [topology, hk]
    exact .replace list.items _ .empty
  | heard _ hx hs ih => exact hs.lasts .reachable hx ih
  | seated _ _ hseat ih =>
    obtain ⟨-, held, t, hc, rfl⟩ := seat_cases hseat
    exact .handle (.claim hc) ih
  | worked _ _ _ ih => exact .handle (.update _ _) ih
  | watched _ ih => exact .handle .watch ih
  | drained _ ih => exact .handle .drain ih
  | went _ _ hk ih =>
    rw [topology, hk]
    exact ih

/-- In every slot sits a manager that the provider makes for the cluster. -/
theorem fits (h : Life xs p) : Fits p.build p.topology := by
  induction h with
  | listed list hk =>
    intro cluster g hg
    rw [topology, hk] at hg
    cases Topology.held?_of_replace hg
  | heard _ hx hs ih => exact hs.lasts (Fits.lasts _) hx ih
  | @seated xs p q cluster g seat _ hbuilt hseat ih =>
    obtain ⟨-, held, t, hc, rfl⟩ := seat_cases hseat
    intro other g' hg
    obtain ⟨-, ⟨-, rfl⟩ | ⟨-, rfl, rfl⟩⟩ := Topology.claim_cases hc
    · exact ih other g' hg
    · change Topology.held? { p.topology with slots := _ } other = some g' at hg
      rw [Topology.held?_insert] at hg
      split at hg
      · next he =>
        cases hg
        subst he
        exact ⟨_, hbuilt, .refl _⟩
      · exact ih other g' hg
  | @worked xs p cluster g g' _ hheld hmake ih =>
    intro other g'' hg
    change (p.topology.update cluster g').held? other = some g'' at hg
    rw [Topology.held?_update] at hg
    split at hg
    · next he =>
      cases hg
      obtain ⟨built, hbuilt, hb⟩ := ih cluster g hheld
      rw [he.1]
      exact ⟨built, hbuilt, hb.trans hmake⟩
    · exact ih other g'' hg
  | watched _ ih => exact ih
  | @drained xs p _ ih =>
    intro cluster g hg
    cases (Topology.held?_drain (t := p.topology)).symm.trans hg
  | went _ hsame hk ih =>
    intro cluster g hg
    rw [topology, hk] at hg
    rw [hsame.build_eq]
    exact ih cluster g hg

/-! ### What a provider does -/

/-- The seat that a target leads to is taken. -/
theorem seatOf (h : Life xs p) (hs : p.seatOf target = .ok (seat, q)) :
    Life xs q ∧ q.Taken seat := by
  by_cases hhub : target = "" ∨ p.topology.hub? = some target
  · cases (seatOf_of_hub hhub).symm.trans hs
    exact ⟨h, trivial⟩
  · obtain ⟨hne, hhub⟩ := not_or.mp hhub
    by_cases hmem : target ∈ p.targets
    · obtain ⟨rfl, ⟨hheld, rfl⟩ | ⟨hheld, g, hbuilt, rfl⟩⟩ := seatOf_spoke_cases hne hhub hmem hs
      · exact ⟨h, hheld⟩
      · refine ⟨h.seated hbuilt (seat_of_empty hmem hheld g), ?_⟩
        change (Topology.held? (p.topology.update target g) target).isSome = true
        rw [Topology.held?_update, if_pos ⟨rfl, Topology.has_iff.mpr hmem⟩]
        rfl
    · cases (seatOf_of_unknown hne hhub hmem).symm.trans hs

/-- A manager may only become another state of itself. -/
theorem setManager (h : Life xs p) (ht : p.Taken seat) {g : Manager}
    (hg : (p.managerAt seat).SameMake g) : Life xs (p.setManager g seat) := by
  cases seat with
  | hub => exact h.went ⟨rfl, rfl, rfl, rfl, hg⟩ rfl
  | spoke cluster =>
    obtain ⟨held, hheld⟩ := Option.isSome_iff_exists.mp ht
    refine h.worked hheld ?_
    simpa [managerAt, hheld] using hg

variable {m : Type → Type} [Monad m] {W : Type} [Runs m W] {α : Type} {w : W}

/-- Work at a seat that is taken goes on in the same life. -/
theorem onSeat (h : Life xs p) (ht : p.Taken seat) {action : StateT Manager m α}
    (ha : Manager.Keeps m α action) :
    Life xs (run (HubProvider.onSeat seat action) (p, w)).2.1 := by
  rw [run_onSeat]
  exact h.setManager ht (ha _ _)

theorem onTarget (h : Life xs p) {action : StateT Manager m (Except FleetError α)}
    (ha : Manager.Keeps m _ action) :
    Life xs (run (HubProvider.onTarget target action) (p, w)).2.1 := by
  rw [run_onTarget]
  match hs : p.seatOf target with
  | .error e => exact h
  | .ok (seat, q) =>
    obtain ⟨hq, ht⟩ := h.seatOf hs
    exact hq.onSeat ht ha

variable [Network m]

/-- So does a request that exchanges a token and works with a handle. -/
theorem withHandle (h : Life xs p) {exchange : TokenExchange.Exchanger m} {caller : Caller}
    {action : Handle → StateT Manager m α} (ha : ∀ handle, Manager.Keeps m α (action handle)) :
    Life xs (run (HubProvider.withHandle exchange caller target action) (p, w)).2.1 := by
  rw [run_withHandle]
  match hs : p.seatOf (p.chosen target) with
  | .error e => exact h
  | .ok (seat, q) =>
    obtain ⟨hq, ht⟩ := h.seatOf hs
    dsimp only
    match run (q.exchangeFor exchange caller (p.chosen target)) w with
    | (.error e, w') => exact hq
    | (.ok caller, w') => exact hq.onSeat ht (Manager.keeps_withHandle ha caller)

/-- What happens to a follower is heard, one thing after the other. -/
theorem run_heard (h : Life xs p) {f f' : Follower Manager} (hrun : Follower.Run f ys f')
    (hys : Happening.elsewhere ∉ ys) (hf : f.membership = p.membership) :
    Life (xs ++ ys) { p with membership := f'.membership } := by
  induction hrun generalizing xs p with
  | done =>
    rw [List.append_nil, hf]
    exact h
  | @step f g f' y ys hstep _ ih =>
    obtain ⟨stage, k⟩ := f
    cases (hf : k = p.membership)
    obtain ⟨hy, hys⟩ := not_or.mp (mt List.mem_cons.mpr hys)
    rw [List.append_cons]
    exact ih (p := { p with membership := g.membership }) (h.heard (Ne.symm hy) hstep) hys rfl

/-- A turn of the watch adds to the life what was heard in it. -/
theorem turnWatch (h : Life xs p) (reload : m Bool) :
    Life (xs ++ p.record reload w) (run (HubProvider.turnWatch reload) (p, w)).2.1 := by
  have hrun := run_record reload p w h.reachable
  have hsame := keeps_turnWatch reload p w
  exact (h.run_heard hrun elsewhere_not_mem_record rfl).went
    ⟨hsame.env_eq, hsame.strategy_eq, hsame.table_eq, hsame.proxyHost_eq, hsame.hub⟩ rfl

/-- To begin to watch is nothing that is heard. -/
theorem startWatching (h : Life xs p) (now : Nat) : Life xs (p.startWatching now) := by
  have hub : p.hub.SameMake (p.hub.watch p.env.watchSettings) := .watch _ _
  unfold HubProvider.startWatching
  dsimp only
  split
  · exact h.went ⟨rfl, rfl, rfl, rfl, hub⟩ rfl
  · exact h.watched.went ⟨rfl, rfl, rfl, rfl, hub⟩ rfl

/-- To close a provider is the end of its managers, but not of what it has heard. -/
theorem close (h : Life xs p) : Life xs p.close :=
  h.drained.went ⟨rfl, rfl, rfl, rfl, .close _⟩ rfl

/-- All that goes on up to a moment is heard, one thing after the other. -/
theorem runTo (h : Life xs p) (reload : m Bool) (time limit : Nat) :
    ∃ ys, Life (xs ++ ys) (run (HubProvider.runTo reload time limit) (p, w)).2.1 := by
  induction limit generalizing xs p w with
  | zero =>
    rw [HubProvider.runTo, Runs.run_pure]
    exact ⟨[], by rwa [List.append_nil]⟩
  | succ limit ih =>
    have hstill : ∃ ys, Life (xs ++ ys) p := ⟨[], by rwa [List.append_nil]⟩
    rw [run_runTo_succ]
    dsimp only
    cases p.due? (run (Clock.now : m Nat) w).1 with
    | none => exact hstill
    | some next =>
      obtain ⟨due, time'⟩ := next
      dsimp only
      by_cases hlate : time < time'
      · rw [if_pos hlate]
        exact hstill
      · rw [if_neg hlate]
        cases due with
        | hub =>
          have htaken : p.Taken .hub := trivial
          exact ih (h.onSeat htaken (Manager.keeps_runTo reload time' 1))
        | stream =>
          obtain ⟨ys, hys⟩ := ih (h.turnWatch reload)
          exact ⟨_, by rwa [List.append_assoc] at hys⟩

/-- A provider begins to live with a list of the clusters of its hub. -/
theorem of_hasListed (h : p.HasListed m) : Life [] p := by
  obtain ⟨_, _, _, _, list, -, hp⟩ := h
  exact .listed list (congrArg Follower.membership hp)

/-- So does every provider that is created. -/
theorem of_create {env : Environment} {settings : Config.Settings}
    {validators : List ValidatorKind} {strategy : String} {w' : W}
    (h : run (create (m := m) env settings validators strategy) w = (.ok p, w')) : Life [] p := by
  unfold create at h
  dsimp only at h
  split at h
  · rw [Runs.run_pure] at h
    cases h
  · exact of_hasListed (hasListed_of_ofHub h)

end Life

end HubProvider

end FleetGate
