import FleetGate.Proofs.Followers
import FleetGate.Proofs.Histories

/-!
# Lists and changes

A hub has a history, and it sends changes on a stream to whoever follows it.  `Hub.Step` has
one rule for each thing that a hub can do.

* Its history grows at any time.
* It lists its clusters, with its version.
* It sends the changes after the version from which a stream is opened, one after the other.
  On a stream that is opened without a version it sends the clusters that there are, in any
  order, and then the changes after that.
* A bookmark says how far the stream has come: it is not behind the changes that have been
  sent, and none up to it is left.
* Streams fail, are over, and cannot be opened, at any time, and so can lists.

A `System` is a hub with one follower.  From a list on, as long as lists succeed, the follower
stands at a version of the hub (`System.StandsAt`): it knows this version, and the names of
the clusters that there were at it.  Every step keeps this, and no step leads back to a lower
version (`StandsAt.step`).
-/

namespace FleetGate

open Runs (run)

/-- What a hub has still to send on a stream. -/
inductive Sender where
  /-- The changes after a version. -/
  | changes (version : Nat)
  /-- Some of the clusters that there were at a version, and then the changes after it. -/
  | clusters (left : List ApiObject) (version : Nat)

/-- A hub that is followed. -/
structure Hub where
  history : History
  /-- What is still to be sent. -/
  sender : Sender

/-- What a hub does. -/
inductive Move where
  /-- Something happens to its clusters or to other things. -/
  | grows
  | refuses
  /-- It opens a stream of the changes after a version. -/
  | resumes (version : Nat)
  /-- It opens a stream of the clusters that there are at a version. -/
  | begins (version : Nat)
  /-- It sends a cluster. -/
  | tells (object : ApiObject)
  /-- It has sent all clusters. -/
  | goesOn
  | sends (entry : Entry)
  | marks (version : Nat)
  | breaks (line : WatchLine)
  | ends
  | lists (list : ApiList)
  | fails

/-- What whoever follows the hub learns of a move. -/
def Move.heard? : Move → Option Happening
  | .grows | .goesOn => none
  | .refuses => some .refused
  | .resumes version => some (.opened (toString version))
  | .begins _ => some (.opened "")
  | .tells o => some (.line (.event (.added o)))
  | .sends e => some (.line (.event e.event))
  | .marks version => some (.line (.event (.bookmark (toString version))))
  | .breaks line => some (.line line)
  | .ends => some .closed
  | .lists list => some (.listed list)
  | .fails => some .unlisted

/-- What happens to whoever follows the hub when it makes a move. -/
def Move.happening (x : Move) : Happening := x.heard?.getD .elsewhere

/-- What a hub can do. -/
inductive Hub.Step : Hub → Move → Hub → Prop where
  | grows {h h' : History} {s : Sender} : h.GrowsTo h' → Step ⟨h, s⟩ .grows ⟨h', s⟩
  | refuses {hub : Hub} : Step hub .refuses hub
  | resumes {h : History} {s : Sender} {v : Nat} : Step ⟨h, s⟩ (.resumes v) ⟨h, .changes v⟩
  | begins {h : History} {s : Sender} {objects : List ApiObject} : h.clusters.Listed objects →
      Step ⟨h, s⟩ (.begins h.version) ⟨h, .clusters objects h.version⟩
  | tells {h : History} {o : ApiObject} {left : List ApiObject} {v : Nat} :
      Step ⟨h, .clusters (o :: left) v⟩ (.tells o) ⟨h, .clusters left v⟩
  | goesOn {h : History} {v : Nat} : Step ⟨h, .clusters [] v⟩ .goesOn ⟨h, .changes v⟩
  | sends {h : History} {e : Entry} {v : Nat} : h.Next v e →
      Step ⟨h, .changes v⟩ (.sends e) ⟨h, .changes e.version⟩
  | marks {h : History} {v b : Nat} : v ≤ b → b ≤ h.version →
      (∀ e ∈ h.entries, v < e.version → b < e.version) →
      Step ⟨h, .changes v⟩ (.marks b) ⟨h, .changes b⟩
  | breaks {hub : Hub} {line : WatchLine} : line.IsFailure → Step hub (.breaks line) hub
  | ends {hub : Hub} : Step hub .ends hub
  | lists {hub : Hub} {objects : List ApiObject} : hub.history.clusters.Listed objects →
      Step hub (.lists ⟨some (toString hub.history.version), objects⟩) hub
  | fails {hub : Hub} : Step hub .fails hub

/-- A hub makes one move after the other. -/
abbrev Hub.Run : Hub → List Move → Hub → Prop := Steps Hub.Step

/-- A hub and one who follows it. -/
structure System (μ : Type) where
  hub : Hub
  follower : Follower μ

/-- The event of a change is heeded. -/
theorem Follower.Step.heeded_of_event {μ : Type} {f f' : Follower μ} {c : Change}
    (h : f.Step (.line (.event c.event)) f') :
    f.stage = .reading ∧ f'.membership.topology = f.membership.topology.heed c := by
  have hl : ¬ (WatchLine.event c.event).IsFailure := by
    unfold Change.event
    cases c.kind <;> exact id
  obtain ⟨hr, effect, hd⟩ := h.delivered_of_line hl
  exact ⟨hr, Membership.topology_of_deliver_event hd⟩

namespace System

variable {μ : Type} {s s' : System μ} {x : Move} {xs : List Move} {v : Nat}

/-- The hub makes a move, and this happens to whoever follows it. -/
structure Step (s : System μ) (x : Move) (s' : System μ) : Prop where
  hub : s.hub.Step x s'.hub
  follower : s.follower.Step x.happening s'.follower

/-- One move follows the other. -/
abbrev Run : System μ → List Move → System μ → Prop := Steps Step

theorem run_of_move {hub hub' : Hub} {f f' : Follower μ} (hh : hub.Step x hub')
    (hf : f.Step x.happening f') (hr : Run ⟨hub', f'⟩ xs s') : Run ⟨hub, f⟩ (x :: xs) s' :=
  .step ⟨hh, hf⟩ hr

/-- What a hub does and what its follower hears go together. -/
theorem run_of_heard {hub hub' : Hub} {f f' : Follower μ} (hh : hub.Run xs hub')
    (hf : f.Run (xs.filterMap Move.heard?) f') : Run ⟨hub, f⟩ xs ⟨hub', f'⟩ := by
  induction hh generalizing f with
  | done =>
    cases hf
    exact .done
  | @step hub hub₁ hub₂ x xs hs _ ih =>
    cases hx : x.heard? with
    | none =>
      rw [List.filterMap_cons_none hx] at hf
      have hstep : f.Step x.happening f := by
        rw [Move.happening, hx]
        exact .elsewhere .nothing
      exact run_of_move hs hstep (ih hf)
    | some y =>
      rw [List.filterMap_cons_some hx] at hf
      cases hf with
      | step hstep hrest =>
        refine run_of_move hs ?_ (ih hrest)
        rw [Move.happening, hx]
        exact hstep

/-- The names of the clusters that are known. -/
def names (s : System μ) : List String := s.follower.names

/-- The hub has just listed its clusters. -/
inductive Listed : System μ → Prop where
  | intro {hub : Hub} {objects : List ApiObject} {k : Membership μ} :
      hub.history.clusters.Listed objects →
      Listed ⟨hub, .idle, (k.relist ⟨some (toString hub.history.version), objects⟩).2⟩

/-- Nothing has happened to the clusters after the version that is known. -/
def CaughtUp (s : System μ) : Prop :=
  ∃ v : Nat, s.follower.version = toString v ∧ ∀ e ∈ s.hub.history.entries, e.version ≤ v

/-- The follower knows a version and the names of the clusters at it.  If a stream is open, it
brings the changes after this version. -/
structure StandsAt (s : System μ) (v : Nat) : Prop where
  version_eq : s.follower.version = toString v
  version_le : v ≤ s.hub.history.version
  sound : s.follower.membership.topology.Sound
  mem_names : ∀ name, name ∈ s.names ↔ (s.hub.history.clustersAt v name).isSome = true
  sender_eq : s.follower.stage = .reading → s.hub.sender = .changes v

namespace StandsAt

/-- Whatever changes neither what is known of the clusters nor the version keeps this. -/
theorem keep (h : s.StandsAt v) (hg : s.hub.history.GrowsTo s'.hub.history)
    (hk : s.follower.Keeps s'.follower)
    (hsender : s'.follower.stage = .reading → s'.hub.sender = .changes v) : s'.StandsAt v where
  version_eq := hk.version_eq.trans h.version_eq
  version_le := h.version_le.trans hg.version_le
  sound := h.sound.of_visible_eq hk.visible_eq
  mem_names := by
    intro name
    rw [History.clustersAt_grown hg h.version_le, ← h.mem_names, names, hk.names_eq]
    rfl
  sender_eq := hsender

/-- A list is a version to stand at. -/
theorem of_relist {hub : Hub} {objects : List ApiObject} (k : Membership μ)
    (h : hub.history.clusters.Listed objects) :
    StandsAt ⟨hub, .idle, (k.relist ⟨some (toString hub.history.version), objects⟩).2⟩
      hub.history.version where
  version_eq := rfl
  version_le := le_rfl
  sound := .replace k.topology objects _
  mem_names _ := Topology.mem_names_replace.trans
    (h.exists_named_iff (hub.history.clustersAt_named hub.history.version))
  sender_eq hreading := nomatch hreading

/-- The next change leads to its version. -/
theorem send {hub : Hub} {f f' : Follower μ} {e : Entry} (h : StandsAt ⟨hub, f⟩ v)
    (hnext : hub.history.Next v e)
    (ht : f'.membership.topology = f.membership.topology.heed e.toChange) :
    StandsAt ⟨⟨hub.history, .changes e.version⟩, f'⟩ e.version where
  version_eq := by
    rw [Follower.version, ht, Topology.version_heed, e.stamped]
    rfl
  version_le := hub.history.bounded e hnext.mem
  sound := ht ▸ h.sound.heed e.toChange
  mem_names name := by
    rw [names, Follower.names, ht, Topology.mem_names_heed, History.clustersAt_next hnext,
      Clusters.apply]
    split
    · exact Change.isSome_after?.symm
    · exact h.mem_names name
  sender_eq _ := rfl

/-- A bookmark leads to its version, up to which there is no change. -/
theorem mark {hub : Hub} {f f' : Follower μ} {b : Nat} (h : StandsAt ⟨hub, f⟩ v) (hle : v ≤ b)
    (hb : b ≤ hub.history.version)
    (hnone : ∀ e ∈ hub.history.entries, v < e.version → b < e.version)
    (hversion : f'.version = toString b)
    (hvisible : f'.membership.topology.visible = f.membership.topology.visible) :
    StandsAt ⟨⟨hub.history, .changes b⟩, f'⟩ b where
  version_eq := hversion
  version_le := hb
  sound := h.sound.of_visible_eq hvisible
  mem_names name := by
    rw [names, Follower.names, (Topology.visible_eq_iff.mp hvisible).1,
      History.clustersAt_of_none hle hnone]
    exact h.mem_names name
  sender_eq _ := rfl

/-- No step but a list that fails leads away from the versions of the hub, and none leads
back. -/
theorem step (h : s.StandsAt v) (hs : s.Step x s') (hx : x ≠ .fails) :
    ∃ v', v ≤ v' ∧ s'.StandsAt v' := by
  obtain ⟨hub, f⟩ := s
  obtain ⟨hub', f'⟩ := s'
  obtain ⟨hhub, hf⟩ := hs
  dsimp only at hhub hf
  cases hhub with
  | grows hg =>
    obtain ⟨hk, hstage⟩ := hf.keeps_of_elsewhere h.sound
    exact ⟨v, le_rfl, h.keep hg hk fun hr => h.sender_eq (hstage.symm.trans hr)⟩
  | refuses =>
    obtain ⟨hk, hstage⟩ := hf.keeps_of_refused
    exact ⟨v, le_rfl, h.keep (.refl _) hk fun hr => absurd hr hstage⟩
  | resumes =>
    obtain ⟨hk, hv⟩ := hf.keeps_of_opened
    have he := Nat.repr_inj.mp (h.version_eq.symm.trans hv)
    exact ⟨v, le_rfl, h.keep (.refl _) hk fun _ => congrArg Sender.changes he.symm⟩
  | begins =>
    -- the version that is known is that of the hub, and not empty
    obtain ⟨-, hv⟩ := hf.keeps_of_opened
    exact absurd (h.version_eq.symm.trans hv) Nat.repr_ne_empty
  | tells =>
    -- a stream from a version on brings changes only
    cases h.sender_eq hf.upserted_of_added.1
  | goesOn =>
    obtain ⟨hk, hstage⟩ := hf.keeps_of_elsewhere h.sound
    refine ⟨v, le_rfl, h.keep (.refl _) hk fun hr => ?_⟩
    cases h.sender_eq (hstage.symm.trans hr)
  | sends hnext =>
    obtain ⟨hr, ht⟩ := hf.heeded_of_event
    cases h.sender_eq hr
    exact ⟨_, hnext.after.le, h.send hnext ht⟩
  | marks hle hb hnone =>
    obtain ⟨hr, hversion, hvisible⟩ := hf.noted_of_bookmark
    cases h.sender_eq hr
    exact ⟨_, hle, h.mark hle hb hnone hversion hvisible⟩
  | breaks hl =>
    obtain ⟨hk, hstage⟩ := hf.keeps_of_failure hl
    exact ⟨v, le_rfl, h.keep (.refl _) hk fun hr => absurd hr hstage⟩
  | ends =>
    obtain ⟨hk, hstage⟩ := hf.keeps_of_closed
    exact ⟨v, le_rfl, h.keep (.refl _) hk fun hr => absurd hr hstage⟩
  | lists hl =>
    rw [hf.relisted_of_listed]
    exact ⟨_, h.version_le, of_relist f.membership hl⟩
  | fails => exact absurd rfl hx

/-- The follower stands at one version of the hub after the other. -/
theorem run (h : s.StandsAt v) (hr : s.Run xs s') (hx : .fails ∉ xs) :
    ∃ v', v ≤ v' ∧ s'.StandsAt v' := by
  induction hr generalizing v with
  | done => exact ⟨v, le_rfl, h⟩
  | step hs _ ih =>
    obtain ⟨u, hu, hnext⟩ := h.step hs (Ne.symm (List.ne_of_not_mem_cons hx))
    obtain ⟨v', hv', hlast⟩ := ih hnext (List.not_mem_of_not_mem_cons hx)
    exact ⟨v', hu.trans hv', hlast⟩

/-- Once nothing has happened after the version that is known, the names are those of the
clusters that there are. -/
theorem mem_names_of_caughtUp (h : s.StandsAt v) (hc : s.CaughtUp) (name : String) :
    name ∈ s.names ↔ (s.hub.history.clusters name).isSome = true := by
  obtain ⟨u, hu, hlast⟩ := hc
  have he : v = u := Nat.repr_inj.mp (h.version_eq.symm.trans hu)
  subst he
  have hnone : ∀ e ∈ s.hub.history.entries, v < e.version → s.hub.history.version < e.version :=
    fun e he hafter => absurd (hlast e he) (Nat.not_le_of_lt hafter)
  rw [h.mem_names, History.clusters, History.clustersAt_of_none h.version_le hnone]

end StandsAt

end System

/-- A provider begins with a list, and each of its turns is a run of a system of its hub and
itself.  From a list on, as long as the lists succeed, the names are at any moment those of
the clusters at the version that is known, and this version never gets lower.  So the names
are those of the clusters that there are once nothing has happened after it. -/
theorem following_loses_nothing {m : Type → Type} [Monad m] [Network m] {W : Type} [Runs m W] :
    (∀ env strategy hub w p w', run (HubProvider.ofHub (m := m) env strategy hub) w = (.ok p, w') →
      p.HasListed m ∧ p.topology.Reachable) ∧
    (∀ (reload : m Bool) (p : HubProvider) (w : W) (hub hub' : Hub) (xs : List Move),
      p.topology.Reachable → hub.Run xs hub' → xs.filterMap Move.heard? = p.record reload w →
      System.Run ⟨hub, .idle, p.membership⟩ xs
        ⟨hub', (run (HubProvider.turnWatch reload) (p, w)).2.1.follower⟩ ∧
      (run (HubProvider.turnWatch reload) (p, w)).2.1.topology.Reachable) ∧
    ∀ (s₀ s s' : System Manager) (xs ys : List Move), s₀.Listed → s₀.Run xs s → s.Run ys s' →
      .fails ∉ xs → .fails ∉ ys →
      ∃ v v' : Nat, v ≤ v' ∧ s.follower.version = toString v ∧ s'.follower.version = toString v' ∧
        (∀ name, name ∈ s.names ↔ (s.hub.history.clustersAt v name).isSome = true) ∧
        (s.CaughtUp → ∀ name, name ∈ s.names ↔ (s.hub.history.clusters name).isSome = true) := by
  refine ⟨fun env strategy hub w p w' h => ?_, fun reload p w hub hub' xs hp hh hx => ?_,
    fun s₀ s s' xs ys hl hxs hys hfx hfy => ?_⟩
  · have hlisted := HubProvider.hasListed_of_ofHub h
    exact ⟨hlisted, hlisted.reachable⟩
  · refine ⟨System.run_of_heard hh (hx ▸ HubProvider.run_record reload p w hp), ?_⟩
    rw [HubProvider.run_turn reload p w hp]
    exact HubProvider.reachable_turn reload p w hp
  · obtain ⟨hl⟩ := hl
    obtain ⟨v, -, hv⟩ := (System.StandsAt.of_relist _ hl).run hxs hfx
    obtain ⟨v', hle, hv'⟩ := hv.run hys hfy
    exact ⟨v, v', hle, hv.version_eq, hv'.version_eq, hv.mem_names, hv.mem_names_of_caughtUp⟩

/-! ## A cluster that goes away between two streams -/

/-- A hub has a cluster. -/
def firstHistory : History :=
  ⟨[.ofName .created "a" 1], 1, List.pairwise_singleton _ _, by decide⟩

/-- It gets another one. -/
def secondHistory : History :=
  ⟨firstHistory.entries ++ [.ofName .created "b" 2], 3, by decide, by decide⟩

/-- It loses the first one. -/
def thirdHistory : History :=
  ⟨secondHistory.entries ++ [.ofName .deleted "a" 4], 5, by decide, by decide⟩

/-- A hub that has sent the changes up to a version, and one who knows some names and a
version. -/
def systemAt (h : History) (sent : Nat) (stage : Stage) (names : List String) (version : String)
    (backoff : Backoff := .standard) : System Manager :=
  ⟨⟨h, .changes sent⟩, stage, { slots := names.map (·, none), version }, backoff⟩

/-- The other cluster is learned of from a stream. -/
def firstMoves : List Move :=
  [.resumes 1, .grows, .sends (.ofName .created "b" 2), .marks 3, .ends]

theorem run_firstMoves :
    (systemAt firstHistory 0 .idle ["a"] "1").Run firstMoves
      (systemAt secondHistory 3 .idle ["a", "b"] "3") := by
  have hgrows : firstHistory.GrowsTo secondHistory := ⟨⟨_, rfl, by decide⟩, by decide⟩
  have hnext : secondHistory.Next 1 (.ofName .created "b" 2) :=
    ⟨List.mem_append_right _ (List.mem_singleton_self _), by decide, by decide⟩
  have hopened : (systemAt firstHistory 0 .idle ["a"] "1").Step (.resumes 1)
      (systemAt firstHistory 1 .reading ["a"] "1") := ⟨.resumes, .opened⟩
  have hgrown : (systemAt firstHistory 1 .reading ["a"] "1").Step .grows
      (systemAt secondHistory 1 .reading ["a"] "1") := ⟨.grows hgrows, .elsewhere .nothing⟩
  have hsent : (systemAt secondHistory 1 .reading ["a"] "1").Step
      (.sends (.ofName .created "b" 2)) (systemAt secondHistory 2 .reading ["a", "b"] "2") :=
    ⟨.sends hnext, .delivered rfl⟩
  have hmarked : (systemAt secondHistory 2 .reading ["a", "b"] "2").Step (.marks 3)
      (systemAt secondHistory 3 .reading ["a", "b"] "3") :=
    ⟨.marks (by decide) (by decide) (by decide), .delivered rfl⟩
  have hclosed : (systemAt secondHistory 3 .reading ["a", "b"] "3").Step .ends
      (systemAt secondHistory 3 .idle ["a", "b"] "3") := ⟨.ends, .closed⟩
  exact .step hopened <| .step hgrown <| .step hsent <| .step hmarked <| .step hclosed .done

/-- The hub does not go back as far any more, and is asked for a list. -/
def secondMoves : List Move :=
  [.grows, .resumes 3, .breaks (.event (.failed ⟨Membership.goneCode, "Expired", ""⟩)),
    .lists ⟨some "5", thirdHistory.listing⟩]

theorem run_secondMoves :
    (systemAt secondHistory 3 .idle ["a", "b"] "3").Run secondMoves
      (systemAt thirdHistory 3 .idle ["b"] "5") := by
  have hgrows : secondHistory.GrowsTo thirdHistory := ⟨⟨_, rfl, by decide⟩, by decide⟩
  have hgrown : (systemAt secondHistory 3 .idle ["a", "b"] "3").Step .grows
      (systemAt thirdHistory 3 .idle ["a", "b"] "3") := ⟨.grows hgrows, .elsewhere .nothing⟩
  have hopened : (systemAt thirdHistory 3 .idle ["a", "b"] "3").Step (.resumes 3)
      (systemAt thirdHistory 3 .reading ["a", "b"] "3") := ⟨.resumes, .opened⟩
  have hgone : (systemAt thirdHistory 3 .reading ["a", "b"] "3").Step
      (.breaks (.event (.failed ⟨Membership.goneCode, "Expired", ""⟩)))
      (systemAt thirdHistory 3 .expired ["a", "b"] "3") := ⟨.breaks trivial, .ended .expired rfl⟩
  have hlisted : (systemAt thirdHistory 3 .expired ["a", "b"] "3").Step
      (.lists ⟨some "5", thirdHistory.listing⟩) (systemAt thirdHistory 3 .idle ["b"] "5") :=
    ⟨.lists thirdHistory.listed_listing, .listed⟩
  exact .step hgrown <| .step hopened <| .step hgone <| .step hlisted .done

set_option maxRecDepth 2000 in
/-- Without a network no stream is opened. -/
theorem record_ownProvider :
    ownProvider.record Simulation.reload ({}, ()) = [.refused] := by rfl

/-- A cluster that goes away between two streams is forgotten with the next list. -/
theorem deleted_cluster_is_forgotten :
    let s₀ := systemAt firstHistory 0 .idle ["a"] "1"
    let s := systemAt secondHistory 3 .idle ["a", "b"] "3"
    let s' := systemAt thirdHistory 3 .idle ["b"] "5"
    (s₀.Listed ∧ s₀.Run firstMoves s ∧ s.Run secondMoves s' ∧ .fails ∉ firstMoves ∧
      .fails ∉ secondMoves ∧ s.CaughtUp ∧
      (∀ name, name ∈ s.names ↔ (secondHistory.clusters name).isSome = true) ∧
      ∃ v v' : Nat, v ≤ v' ∧ "3" = toString v ∧ "5" = toString v') ∧
    ownProvider.topology.Reachable ∧
    System.Run ⟨s₀.hub, .idle, ownProvider.membership⟩ [.refuses] ⟨s₀.hub,
      (run (HubProvider.turnWatch Simulation.reload) (ownProvider, {}, ())).2.1.follower⟩ := by
  intro s₀ s s'
  have hreach : ownProvider.topology.Reachable := .upsert ownCluster .empty
  have hlist : System.Listed ⟨s₀.hub, .idle, (({} : Membership Manager).relist
      ⟨some (toString firstHistory.version), firstHistory.listing⟩).2⟩ :=
    .intro firstHistory.listed_listing
  have hlisted : s₀.Listed := hlist
  have hcaught : s.CaughtUp := ⟨3, rfl, by decide⟩
  have hfirst : .fails ∉ firstMoves := by simp [firstMoves]
  have hsecond : .fails ∉ secondMoves := by simp [secondMoves]
  obtain ⟨-, hturn, hruns⟩ := following_loses_nothing (m := Simulation.Simulated)
  obtain ⟨v, v', hle, hv, hv', -, hnow⟩ :=
    hruns s₀ s s' firstMoves secondMoves hlisted run_firstMoves run_secondMoves hfirst hsecond
  have hrefused : Hub.Run s₀.hub [.refuses] s₀.hub := .step .refuses .done
  exact ⟨⟨hlisted, run_firstMoves, run_secondMoves, hfirst, hsecond, hcaught, hnow hcaught,
    v, v', hle, hv, hv'⟩, hreach, (hturn _ _ _ _ _ _ hreach hrefused record_ownProvider.symm).1⟩

end FleetGate
