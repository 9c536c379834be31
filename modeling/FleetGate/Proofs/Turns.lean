import FleetGate.Proofs.Identity
import FleetGate.Proofs.Topologies
import FleetGate.Provider.Hub
import Mathlib.Logic.Function.Iterate

/-!
# Turns of the watch

To follow the clusters of a hub is to take one turn after the other.  In a turn a stream is
opened and its lines are followed to the end.  If the hub does not go back as far as the
version, the clusters are listed anew.

* `Membership.hear` is what a stream comes to, and `Membership.changes` how often it changes
  what is seen of the clusters.
* `run_follow` and `run_resync` say what following a stream and listing anew do to a provider
  and to its world, and `run_turnWatch` puts them together to a turn.

Reloads are part of the world, so these equations say exactly when they happen: once for
each line and each list that changes what is seen, and not otherwise
(`HubProvider.reloadsOnChange`).
-/

namespace FleetGate

open Runs (run bind_of)

/-! ## Streams -/

namespace Membership

variable {μ : Type} {k k' : Membership μ}

/-- How a stream ends, and what is known then. -/
def hear : List WatchLine → Membership μ → Ending × Membership μ
  | [], k => (.clean, k)
  | line :: lines, k => match k.deliver line with
      | .error ending => (ending, k)
      | .ok (_, k') => hear lines k'

/-- How many lines of a stream change what is seen of the clusters. -/
def changes : List WatchLine → Membership μ → Nat
  | [], _ => 0
  | line :: lines, k => match k.deliver line with
      | .error _ => 0
      | .ok (_, k') =>
          changes lines k' + if k'.topology.visible = k.topology.visible then 0 else 1

/-- What a line does that does not end the stream.  Each such line ends a row of failures. -/
theorem deliver_cases {line : WatchLine} {effect : Effect μ}
    (h : k.deliver line = .ok (effect, k')) :
    k'.backoff = k.backoff.reset ∧
    ((∃ o, (line = .event (.added o) ∨ line = .event (.modified o)) ∧
        effect.reloads = (k.topology.upsert o).1 ∧ k'.topology = (k.topology.upsert o).2) ∨
      (∃ o, line = .event (.deleted o) ∧
        effect.reloads = (k.topology.remove o).1 ∧ k'.topology = (k.topology.remove o).2.2) ∨
      ∃ version, line = .event (.bookmark version) ∧
        effect.reloads = false ∧ k'.topology = { k.topology with version }) := by
  match line with
  | .event (.added o) => cases h; exact ⟨rfl, Or.inl ⟨o, Or.inl rfl, rfl, rfl⟩⟩
  | .event (.modified o) => cases h; exact ⟨rfl, Or.inl ⟨o, Or.inr rfl, rfl, rfl⟩⟩
  | .event (.deleted o) => cases h; exact ⟨rfl, Or.inr (Or.inl ⟨o, rfl, rfl, rfl⟩)⟩
  | .event (.bookmark version) => cases h; exact ⟨rfl, Or.inr (Or.inr ⟨version, rfl, rfl, rfl⟩)⟩
  | .event (.failed s) => cases h
  | .failure e => cases e <;> cases h

/-- A property of topologies that lasts whatever is heard of the clusters. -/
structure Lasts (P : Topology μ → Prop) : Prop where
  upsert (o : ApiObject) {t : Topology μ} : P t → P (t.upsert o).2
  remove (o : ApiObject) {t : Topology μ} : P t → P (t.remove o).2.2
  replace (objects : List ApiObject) (version : String) {t : Topology μ} :
    P t → P (t.replace objects version).2.2
  note (version : String) {t : Topology μ} : P t → P { t with version }

namespace Lasts

variable {P : Topology μ → Prop}

theorem deliver (hP : Lasts P) {line : WatchLine} {effect : Effect μ}
    (h : k.deliver line = .ok (effect, k')) (hk : P k.topology) : P k'.topology := by
  obtain ⟨-, ⟨o, -, -, ht⟩ | ⟨o, -, -, ht⟩ | ⟨version, -, -, ht⟩⟩ := deliver_cases h
  · rw [ht]
    exact hP.upsert o hk
  · rw [ht]
    exact hP.remove o hk
  · rw [ht]
    exact hP.note version hk

theorem hear (hP : Lasts P) (lines : List WatchLine) (hk : P k.topology) :
    P (k.hear lines).2.topology := by
  induction lines generalizing k with
  | nil => exact hk
  | cons line lines ih =>
    unfold Membership.hear
    cases hd : k.deliver line with
    | error ending => exact hk
    | ok delivered => exact ih (hP.deliver hd hk)

theorem reachable : Lasts (Topology.Reachable (μ := μ)) where
  upsert o _ h := h.upsert o
  remove o _ h := h.remove o
  replace objects version _ h := h.replace objects version
  note version _ h := h.note version

end Lasts

theorem reachable_of_deliver {line : WatchLine} {effect : Effect μ}
    (h : k.deliver line = .ok (effect, k')) (hr : k.topology.Reachable) :
    k'.topology.Reachable := Lasts.reachable.deliver h hr

/-- A failure changes nothing but the delay. -/
theorem fail_eq (k : Membership μ) : k.fail.2 = { k with backoff := k.fail.2.backoff } := by
  unfold fail
  cases k.backoff.next <;> rfl

theorem topology_fail (k : Membership μ) : k.fail.2.topology = k.topology := by
  rw [fail_eq]

/-- A line calls for a reload if it changes what is seen. -/
theorem reloads_of_deliver {line : WatchLine} {effect : Effect μ}
    (h : k.deliver line = .ok (effect, k')) (hr : k.topology.Reachable) :
    effect.reloads = true ↔ k'.topology.visible ≠ k.topology.visible := by
  obtain ⟨-, ⟨o, -, he, ht⟩ | ⟨o, -, he, ht⟩ | ⟨version, -, he, ht⟩⟩ := deliver_cases h
  · rw [he, ht]
    exact Topology.upsert_reports
  · rw [he, ht]
    exact hr.sound.remove_reports o
  · rw [he, ht]
    exact iff_of_false Bool.false_ne_true fun hne => hne rfl

end Membership

namespace HubProvider

variable {m : Type → Type} [Monad m] {W : Type} [Runs m W]

/-- What is done at the seat of the hub changes nothing but the manager of the hub. -/
theorem run_onSeat_hub {α : Type} (action : StateT Manager m α) (p : HubProvider) (w : W) :
    run (onSeat .hub action) (p, w) =
      ((run action (p.hub, w)).1, { p with hub := (run action (p.hub, w)).2.1 },
        (run action (p.hub, w)).2.2) := by
  unfold onSeat
  rw [Runs.run_bind, Runs.run_get, Runs.run_bind, Runs.run_monadLift, Runs.run_bind,
    Runs.run_modify, Runs.run_pure]
  rfl

/-! ## Reloads -/

/-- The world after a reload. -/
def reloaded (reload : m Bool) (w : W) : W := (run reload w).2

theorem run_carryOut (reload : m Bool) (effect : Membership.Effect Manager) (p : HubProvider)
    (w : W) :
    run (carryOut reload effect) (p, w) =
      (⟨⟩, p, if effect.reloads then reloaded reload w else w) := by
  unfold carryOut
  cases effect.reloads with
  | false =>
    rw [if_neg Bool.false_ne_true, if_neg Bool.false_ne_true, Runs.run_pure]
  | true =>
    rw [if_pos rfl, if_pos rfl, Runs.run_bind, Runs.run_monadLift, Runs.run_pure]
    rfl

/-- A stream is followed to its end, with a reload for each line that changes what is seen. -/
theorem run_follow (reload : m Bool) (lines : List WatchLine) (p : HubProvider) (w : W)
    (h : p.topology.Reachable) :
    run (follow reload lines) (p, w) =
      ((p.membership.hear lines).1, { p with membership := (p.membership.hear lines).2 },
        (reloaded reload)^[p.membership.changes lines] w) := by
  -- a line says rightly whether it changes what is seen, as the topology stays reachable
  induction lines generalizing p w with
  | nil => rw [follow, Runs.run_pure]; rfl
  | cons line lines ih =>
    rw [follow, Runs.run_bind, Runs.run_get]
    unfold Membership.hear Membership.changes
    dsimp only
    cases hd : p.membership.deliver line with
    | error ending => rw [Runs.run_pure]; rfl
    | ok delivered =>
      obtain ⟨effect, k⟩ := delivered
      have hreach : ({ p with membership := k } : HubProvider).topology.Reachable :=
        Membership.reachable_of_deliver hd h
      have hreloads := Membership.reloads_of_deliver hd h
      dsimp only
      rw [Runs.run_bind, Runs.run_modify, Runs.run_bind, run_carryOut]
      dsimp only
      rw [ih _ _ hreach]
      by_cases hv : k.topology.visible = p.membership.topology.visible
      · rw [if_neg fun he => hreloads.mp he hv, if_pos hv]
        rfl
      · rw [if_pos (hreloads.mpr hv), if_neg hv, Function.iterate_succ_apply]

variable [Network m]

/-! ## Lists -/

/-- Asks the hub for the list of its clusters. -/
def listClusters : StateT HubProvider m (Except CallError ApiList) :=
  onSeat .hub (Manager.onClient (clusterResource.list Client.send))

/-- Asking for the list changes nothing that is known of the clusters. -/
theorem membership_listClusters (p : HubProvider) (w : W) :
    (run (listClusters (m := m)) (p, w)).2.1.membership = p.membership := by
  rw [listClusters, run_onSeat_hub]

variable {reload : m Bool} {p p' : HubProvider} {w w' : W}

theorem run_relist_of_listed {list : ApiList}
    (h : run (listClusters (m := m)) (p, w) = (.ok list, p', w')) :
    run (relist (m := m)) (p, w) =
      (.ok (p.membership.relist list).1, { p' with membership := (p.membership.relist list).2 },
        w') := by
  have hk : p'.membership = p.membership := by
    rw [← membership_listClusters (m := m) p w, h]
  unfold listClusters at h
  unfold relist
  rw [bind_of h, ← hk]
  exact Runs.run_modifyGet _ _

theorem run_relist_of_unlisted {e : CallError}
    (h : run (listClusters (m := m)) (p, w) = (.error e, p', w')) :
    run (relist (m := m)) (p, w) = (.error e, p', w') := by
  unfold listClusters at h
  unfold relist
  rw [bind_of h, Runs.run_pure]

theorem run_resync_of_listed {list : ApiList}
    (h : run (listClusters (m := m)) (p, w) = (.ok list, p', w')) :
    run (resync reload) (p, w) =
      (true, { p' with membership := (p.membership.relist list).2 },
        if (p.membership.relist list).2.topology.visible = p.topology.visible then w'
        else reloaded reload w') := by
  have hreports : (p.membership.relist list).1.reloads = true ↔
      (p.membership.relist list).2.topology.visible ≠ p.topology.visible :=
    Topology.replace_reports
  unfold resync
  rw [bind_of (run_relist_of_listed h), Runs.run_bind, run_carryOut, Runs.run_pure]
  by_cases hv : (p.membership.relist list).2.topology.visible = p.topology.visible
  · rw [if_neg fun he => hreports.mp he hv, if_pos hv]
  · rw [if_pos (hreports.mpr hv), if_neg hv]

theorem run_resync_of_unlisted {e : CallError}
    (h : run (listClusters (m := m)) (p, w) = (.error e, p', w')) :
    run (resync reload) (p, w) =
      (false, { p' with membership := p.membership.forgetVersion }, w') := by
  have hk : p'.membership = p.membership := by
    rw [← membership_listClusters (m := m) p w, h]
  unfold resync
  rw [bind_of (run_relist_of_unlisted h), Runs.run_bind, Runs.run_modify, Runs.run_pure, hk]

/-! ## Turns -/

/-- Opens a stream of changes from the version on that is known. -/
def openStream : StateT HubProvider m (Except CallError (Option HttpReply)) := do
  match clusterResource.watchRequest? watchSeconds (← get).topology.version with
  | none => pure (.error .unaskable)
  | some r => onSeat .hub (Manager.onClient (Client.listen r))

/-- Opening a stream changes nothing that is known of the clusters. -/
theorem membership_openStream (p : HubProvider) (w : W) :
    (run (openStream (m := m)) (p, w)).2.1.membership = p.membership := by
  unfold openStream
  rw [Runs.run_bind, Runs.run_get]
  cases clusterResource.watchRequest? watchSeconds p.topology.version with
  | none => rw [Runs.run_pure]
  | some r => rw [run_onSeat_hub]

/-- A turn is to open a stream, to follow it, and to go on as it ended. -/
theorem run_turnWatch (reload : m Bool) (p : HubProvider) (w : W) :
    run (turnWatch reload) (p, w) =
      match run (openStream (m := m)) (p, w) with
      | (.error _, s) => run (backOff (m := m)) s
      | (.ok none, s) => (⟨⟩, { s.1 with watch := .silent }, s.2)
      | (.ok (some reply), s) =>
          let followed := run (follow reload (WatchLine.ofReply reply)) s
          run (goOn reload followed.1) followed.2 := by
  unfold turnWatch openStream
  rw [Runs.run_bind, Runs.run_get, Runs.run_bind, Runs.run_get]
  dsimp only
  cases clusterResource.watchRequest? watchSeconds p.topology.version with
  | none =>
    dsimp only
    rw [Runs.run_bind, Runs.run_pure]
  | some r =>
    dsimp only
    rw [Runs.run_bind]
    match run (onSeat .hub (Manager.onClient (Client.listen r))) (p, w) with
    | (.error e, s) => rfl
    | (.ok none, s) => exact Runs.run_modify _ s
    | (.ok (some reply), s) => exact Runs.run_bind _ _ s

/-- What a turn comes to: which stream is followed, when the clusters are listed anew, what is
known afterwards, and how often there is a reload. -/
def turn (reload : m Bool) (p : HubProvider) (w : W) : PUnit × HubProvider × W :=
  match run (openStream (m := m)) (p, w) with
  | (.error _, s) => run (backOff (m := m)) s
  | (.ok none, s) => (⟨⟩, { s.1 with watch := .silent }, s.2)
  | (.ok (some reply), opened) =>
      let lines := WatchLine.ofReply reply
      let heard := p.membership.hear lines
      let s := ({ opened.1 with membership := heard.2 },
        (reloaded reload)^[p.membership.changes lines] opened.2)
      match heard.1 with
      | .clean => run (openNow (m := m)) s
      | .failed => run (backOff (m := m)) s
      | .expired => match run (listClusters (m := m)) s with
        | (.error _, s) =>
            run (backOff (m := m)) ({ s.1 with membership := heard.2.forgetVersion }, s.2)
        | (.ok list, s) =>
            let listed := (heard.2.relist list).2
            run (openNow (m := m)) ({ s.1 with membership := listed },
              if listed.topology.visible = heard.2.topology.visible then s.2
              else reloaded reload s.2)

theorem run_turn (reload : m Bool) (p : HubProvider) (w : W) (h : p.topology.Reachable) :
    run (turnWatch reload) (p, w) = p.turn reload w := by
  have hk := membership_openStream (m := m) p w
  rw [run_turnWatch, turn]
  generalize run (openStream (m := m)) (p, w) = opened at hk ⊢
  match opened, hk with
  | (.error e, s), _ => rfl
  | (.ok none, s), _ => rfl
  | (.ok (some reply), p', w'), (hk : p'.membership = p.membership) =>
    have hr : p'.topology.Reachable := by
      rw [topology, hk]
      exact h
    dsimp only
    rw [run_follow reload _ p' w' hr, hk]
    cases (p.membership.hear (WatchLine.ofReply reply)).1 with
    | clean => rfl
    | failed => rfl
    | expired =>
      dsimp only [goOn]
      rw [Runs.run_bind]
      generalize hs : ({ p' with membership := (p.membership.hear (WatchLine.ofReply reply)).2 } :
        HubProvider) = q
      have hq : q.membership = (p.membership.hear (WatchLine.ofReply reply)).2 := by rw [← hs]
      generalize (reloaded reload)^[p.membership.changes (WatchLine.ofReply reply)] w' = v
      match hl : run (listClusters (m := m)) (q, v) with
      | (.error e, q', v') =>
        rw [run_resync_of_unlisted hl, if_neg Bool.false_ne_true, hq]
      | (.ok list, q', v') =>
        rw [run_resync_of_listed hl, if_pos rfl, topology, hq]

/-! ## What a turn keeps -/

theorem membership_openNow (p : HubProvider) (w : W) :
    (run (openNow (m := m)) (p, w)).2.1.membership = p.membership := by
  unfold openNow
  rw [Runs.run_bind, Runs.run_modify]
  show (run (StateT.lift Clock.now : StateT HubProvider m Nat) (p, w)).2.1.membership = _
  rw [Runs.run_lift]

theorem membership_backOff (p : HubProvider) (w : W) :
    (run (backOff (m := m)) (p, w)).2.1.membership = p.membership.fail.2 := by
  unfold backOff
  rw [Runs.run_bind, Runs.run_modify]
  show (run (StateT.lift Clock.now : StateT HubProvider m Nat) (p, w)).2.1.membership.fail.2 = _
  rw [Runs.run_lift]

/-- What lasts whatever is heard of the clusters lasts through a turn. -/
theorem lasts_turn {P : Topology Manager → Prop} (hP : Membership.Lasts P) (reload : m Bool)
    (p : HubProvider) (w : W) (h : P p.topology) : P (p.turn reload w).2.1.topology := by
  have hfail : ∀ {k : Membership Manager}, P k.topology → P k.fail.2.topology := fun hk => by
    rw [Membership.topology_fail]
    exact hk
  have hk := membership_openStream (m := m) p w
  unfold turn topology
  generalize run (openStream (m := m)) (p, w) = opened at hk ⊢
  match opened, hk with
  | (.error e, p', w'), (hk : p'.membership = p.membership) =>
    dsimp only
    rw [membership_backOff, hk]
    exact hfail h
  | (.ok none, p', w'), (hk : p'.membership = p.membership) =>
    dsimp only
    rw [hk]
    exact h
  | (.ok (some reply), p', w'), _ =>
    have hr := hP.hear (WatchLine.ofReply reply) h
    dsimp only
    cases (p.membership.hear (WatchLine.ofReply reply)).1 with
    | clean => rw [membership_openNow]; exact hr
    | failed => rw [membership_backOff]; exact hfail hr
    | expired =>
      dsimp only
      split
      · rw [membership_backOff]
        exact hfail (hP.note "" hr)
      · rw [membership_openNow]
        exact hP.replace _ _ hr

/-- A turn leaves a topology in a state that topologies get into. -/
theorem reachable_turn (reload : m Bool) (p : HubProvider) (w : W) (h : p.topology.Reachable) :
    (p.turn reload w).2.1.topology.Reachable := lasts_turn .reachable reload p w h

/-! ## What is reported -/

/-- A provider reloads when what is seen of its clusters changes, and not otherwise. -/
structure ReloadsOnChange (reload : m Bool) (p : HubProvider) (w : W) : Prop where
  /-- In a turn there is a reload for each line and each list that changes what is seen. -/
  turn_eq : run (turnWatch reload) (p, w) = p.turn reload w
  /-- And the next turn begins in a state that topologies get into. -/
  reachable : (run (turnWatch reload) (p, w)).2.1.topology.Reachable
  /-- If the clusters cannot be listed, neither they nor what is held for them changes. -/
  unlisted : ∀ e p' w', run (listClusters (m := m)) (p, w) = (.error e, p', w') →
    ∃ q, run (resync reload) (p, w) = (false, q, w') ∧
      q.topology.visible = p.topology.visible ∧ q.topology.slots = p.topology.slots

theorem reloadsOnChange (reload : m Bool) (p : HubProvider) (w : W) (h : p.topology.Reachable) :
    p.ReloadsOnChange reload w where
  turn_eq := run_turn reload p w h
  reachable := by
    rw [run_turn reload p w h]
    exact reachable_turn reload p w h
  unlisted _ _ _ hl := ⟨_, run_resync_of_unlisted hl, rfl, rfl⟩

end HubProvider

/-- In every state that a topology gets into, the hub is one of its clusters, and every change
says whether the names or the hub have changed.  So a provider reloads exactly when they
have. -/
theorem changes_are_reported {m : Type → Type} [Monad m] [Network m] {W : Type} [Runs m W] :
    (∀ {μ : Type} (t : Topology μ), t.Reachable →
      (∀ name, t.hub? = some name → name ∈ t.names) ∧
      (t.names ≠ [] → t.defaultName ∈ t.names) ∧
      (∀ o, (t.upsert o).1 = true ↔ (t.upsert o).2.visible ≠ t.visible) ∧
      (∀ o, (t.remove o).1 = true ↔ (t.remove o).2.2.visible ≠ t.visible) ∧
      ∀ objects version, (t.replace objects version).1 = true ↔
        (t.replace objects version).2.2.visible ≠ t.visible) ∧
    ∀ (reload : m Bool) (p : HubProvider) (w : W), p.topology.Reachable →
      p.ReloadsOnChange reload w := by
  refine ⟨fun t ht => ?_, HubProvider.reloadsOnChange⟩
  have hs : t.Sound := ht.sound
  exact ⟨hs.hub_mem, hs.defaultName_mem, fun _ => Topology.upsert_reports, hs.remove_reports,
    fun _ _ => Topology.replace_reports⟩

/-- A hub that is one of its own clusters. -/
def ownCluster : ApiObject := ⟨some "local-cluster", [(localLabel, "true")], some "1", .null⟩

/-- The provider of a hub that knows of its own cluster. -/
def ownProvider : HubProvider where
  env := ⟨Files.nothing, none, none, false, none, none, none, none⟩
  strategy := Strategy.hub
  table := {}
  proxyHost := "proxy.example.com"
  hub := hubManager
  membership := { topology := (({} : Topology Manager).upsert ownCluster).2 }

/-- The hub is meant when no cluster is named, and it is seen when it goes away. -/
theorem own_cluster_is_reported :
    ownProvider.topology.Reachable ∧ ownProvider.targets ≠ [] ∧
      ownProvider.defaultTarget ∈ ownProvider.targets ∧
      (ownProvider.topology.remove ownCluster).2.2.visible ≠ ownProvider.topology.visible ∧
      ownProvider.ReloadsOnChange Simulation.reload ({}, ()) := by
  have hr : ownProvider.topology.Reachable := .upsert ownCluster .empty
  have hne : ownProvider.targets ≠ [] := by decide
  obtain ⟨-, hdefault, -, hremove, -⟩ :=
    (changes_are_reported (m := Simulation.Simulated)).1 ownProvider.topology hr
  exact ⟨hr, hne, hdefault hne, (hremove ownCluster).mp rfl, changes_are_reported.2 _ _ _ hr⟩

end FleetGate
