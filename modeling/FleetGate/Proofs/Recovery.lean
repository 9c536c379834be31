import FleetGate.Proofs.Following

/-!
# After a list that failed

If a list fails, the version is forgotten, and the next stream begins with the clusters that
there are.  These are only ever added to what is known.  A cluster that went away while no
stream was open is not among them, and nothing else tells that it is gone.  Nor does a stream
that is interrupted before it has told of all clusters make up for the others: the next one
goes on from the version of the last cluster that it told of.

So what is known afterwards depends on what was known before.

* `Move.origin` is the version after which all changes are sent: that of the stream that
  begins with the clusters, or a lower one from which a later stream goes on.
* The names of clusters that have changed since are right, and the others are those that were
  known before or have been told of (`History.Recalled`).

Every step keeps this (`RecoversTo.step`), and `names_after_failed_list` says it of every run.
The turns of a provider are such runs (`HubProvider.run_record`, `System.run_of_heard`).
-/

namespace FleetGate

/-- Whether a move is the answer to whoever wants a list. -/
def Move.IsList : Move → Prop
  | .lists _ | .fails => True
  | _ => False

/-- The names of the clusters that have been told of, once a move is made. -/
def Move.told (names : List String) : Move → List String
  | .tells o => names ++ o.name?.toList
  | _ => names

/-- The version after which all changes are sent, once a move is made. -/
def Move.origin (r : Nat) : Move → Nat
  | .begins v => v
  | .resumes v => min r v
  | _ => r

namespace History

variable {h h' : History} {names names' known : List String} {r r' v v' : Nat} {e : Entry}

/-- The names at a version if all changes after an earlier one have been heeded: those that
have changed are right, and the others are as they were known. -/
def Recalled (h : History) (names known : List String) (r v : Nat) : Prop :=
  ∀ name, name ∈ names ↔
    if h.ChangedIn r v name then (h.clustersAt v name).isSome = true else name ∈ known

theorem recalled_of_le (hle : v ≤ r) :
    h.Recalled names known r v ↔ ∀ name, name ∈ names ↔ name ∈ known :=
  forall_congr' fun _ => by rw [if_neg (not_changedIn_of_le hle)]

namespace Recalled

theorem grown (hc : h.Recalled names known r v) (hg : h.GrowsTo h') (hv : v ≤ h.version) :
    h'.Recalled names known r v := by
  intro name
  simp only [hg.changedIn hv, clustersAt_grown hg hv]
  exact hc name

/-- A change that is heeded makes its cluster right. -/
theorem next (hc : h.Recalled names known r v) (hn : h.Next v e) (hle : r ≤ v)
    (hnames : ∀ name, name ∈ names' ↔ if name = e.name then e.kind ≠ .deleted else name ∈ names) :
    h.Recalled names' known r e.version := by
  intro name
  rw [hnames, clustersAt_next hn, Clusters.apply]
  simp only [changedIn_next hn hle]
  by_cases he : name = e.name
  · rw [if_pos he, if_pos he, if_pos (Or.inl he.symm)]
    exact Change.isSome_after?.symm
  · rw [if_neg he, if_neg he, hc name]
    simp only [Ne.symm he, false_or]

theorem mark (hc : h.Recalled names known r v) (hle : v ≤ v')
    (hnone : ∀ e ∈ h.entries, v < e.version → v' < e.version) : h.Recalled names known r v' := by
  intro name
  simp only [changedIn_of_none hle hnone, clustersAt_of_none hle hnone]
  exact hc name

/-- A stream that goes on from a version sends the changes after it. -/
theorem resume (hc : h.Recalled names known r v) : h.Recalled names known (min r v) v := by
  rcases Nat.le_total r v with hle | hle
  · rw [Nat.min_eq_left hle]
    exact hc
  · rw [Nat.min_eq_right hle, recalled_of_le le_rfl]
    exact (recalled_of_le hle).mp hc

end Recalled

end History

/-- The open stream of a hub brings the changes after `v`, or first the rest of the clusters
at `v`, which is then the version after which all changes are sent. -/
def Hub.Brings (hub : Hub) (r v : Nat) : Prop :=
  (hub.sender = .changes v ∧ r ≤ v) ∨
    ∃ left, hub.sender = .clusters left v ∧ v = r ∧
      ∀ o ∈ left, ∃ name, hub.history.clustersAt v name = some o

theorem Hub.Brings.grown {h h' : History} {sender : Sender} {r v : Nat}
    (hb : Brings ⟨h, sender⟩ r v) (hg : h.GrowsTo h') (hv : v ≤ h.version) :
    Brings ⟨h', sender⟩ r v := by
  rcases hb with hchanges | ⟨left, hs, hvr, hl⟩
  · exact Or.inl hchanges
  · refine Or.inr ⟨left, hs, hvr, ?_⟩
    rw [History.clustersAt_grown hg hv]
    exact hl

namespace System

variable {μ : Type} {s s' : System μ} {x : Move} {xs : List Move} {known told : List String}
  {r v : Nat}

/-- The version from which the next stream will be opened.  It is that of the last change, or
of the last cluster that was told of, or there is none. -/
def Resumable (version : String) (told : List String) (r v : Nat) : Prop :=
  (version = "" ∧ told = [] ∧ v = r) ∨ ∃ u : Nat, version = toString u ∧ (u = v ∨ u ≤ v ∧ v = r)

/-- Some names are known, some have been told of, and all changes after `r` and up to `v` have
been heeded. -/
structure RecoversTo (s : System μ) (known told : List String) (r v : Nat) : Prop where
  sound : s.follower.membership.topology.Sound
  version_le : v ≤ s.hub.history.version
  recalled : s.hub.history.Recalled s.names (known ++ told) r v
  resumable : Resumable s.follower.version told r v
  brings : s.follower.stage = .reading → s.hub.Brings r v

namespace RecoversTo

/-- Whatever changes neither what is known of the clusters nor the version keeps this. -/
theorem keep (h : s.RecoversTo known told r v) (hg : s.hub.history.GrowsTo s'.hub.history)
    (hk : s.follower.Keeps s'.follower) (hb : s'.follower.stage = .reading → s'.hub.Brings r v) :
    s'.RecoversTo known told r v where
  sound := h.sound.of_visible_eq hk.visible_eq
  version_le := h.version_le.trans hg.version_le
  recalled := by
    rw [names, hk.names_eq]
    exact h.recalled.grown hg h.version_le
  resumable := by
    rw [hk.version_eq]
    exact h.resumable
  brings := hb

/-- At first nothing has been told. -/
theorem of_fails (hs : s.follower.membership.topology.Sound) (h : s.Step .fails s') :
    s'.RecoversTo s.names [] 0 0 := by
  obtain ⟨hstage, hversion, hvisible⟩ := h.follower.forgotten_of_unlisted
  refine ⟨hs.of_visible_eq hvisible, Nat.zero_le _, ?_, Or.inl ⟨hversion, rfl, rfl⟩,
    fun hr => absurd hr hstage⟩
  rw [History.recalled_of_le le_rfl, List.append_nil, names, Follower.names,
    (Topology.visible_eq_iff.mp hvisible).1]
  exact fun _ => Iff.rfl

/-- A stream is opened from the version that is known. -/
theorem resume {hub : Hub} {f f' : Follower μ} {u : Nat}
    (h : RecoversTo ⟨hub, f⟩ known told r v) (hk : f.Keeps f') (hv : f.version = toString u) :
    RecoversTo ⟨⟨hub.history, .changes u⟩, f'⟩ known told (min r u) u := by
  -- either all changes up to `u` have been heeded, or none yet
  have hu : u = v ∨ u ≤ v ∧ v = r := by
    rcases h.resumable with ⟨hnone, -, -⟩ | ⟨w, hw, hcases⟩
    · exact absurd (hv.symm.trans hnone) Nat.repr_ne_empty
    · rw [Nat.repr_inj.mp (hv.symm.trans hw)]
      exact hcases
  have hrecalled : hub.history.Recalled f'.names (known ++ told) r u := by
    rw [hk.names_eq]
    rcases hu with rfl | ⟨hle, rfl⟩
    · exact h.recalled
    · exact (History.recalled_of_le hle).mpr ((History.recalled_of_le le_rfl).mp h.recalled)
  have hle : u ≤ v := hu.elim Eq.le And.left
  exact ⟨h.sound.of_visible_eq hk.visible_eq, hle.trans h.version_le, hrecalled.resume,
    Or.inr ⟨u, hk.version_eq.trans hv, Or.inl rfl⟩, fun _ => Or.inl ⟨rfl, Nat.min_le_right r u⟩⟩

/-- A stream is opened that begins with the clusters that there are. -/
theorem begin {hub : Hub} {f f' : Follower μ} {objects : List ApiObject}
    (h : RecoversTo ⟨hub, f⟩ known told r v) (hk : f.Keeps f') (hv : f.version = "")
    (hl : hub.history.clusters.Listed objects) :
    RecoversTo ⟨⟨hub.history, .clusters objects hub.history.version⟩, f'⟩ known told
      hub.history.version hub.history.version := by
  obtain ⟨htold, hvr⟩ : told = [] ∧ v = r := by
    rcases h.resumable with ⟨-, hnone⟩ | ⟨w, hw, -⟩
    · exact hnone
    · exact absurd (hw.symm.trans hv) Nat.repr_ne_empty
  refine ⟨h.sound.of_visible_eq hk.visible_eq, le_rfl, ?_,
    Or.inl ⟨hk.version_eq.trans hv, htold, rfl⟩,
    fun _ => Or.inr ⟨objects, rfl, rfl, fun o ho => (hl o).mp ho⟩⟩
  rw [History.recalled_of_le le_rfl, names, hk.names_eq]
  exact (History.recalled_of_le hvr.le).mp h.recalled

/-- A cluster is told of.  Its version may be lower than that of one before. -/
theorem tell {history : History} {f f' : Follower μ} {o : ApiObject} {left : List ApiObject}
    {u : Nat} (h : RecoversTo ⟨⟨history, .clusters (o :: left) u⟩, f⟩ known told r v)
    (hr : f.stage = .reading)
    (ht : f'.membership.topology = (f.membership.topology.upsert o).2) :
    RecoversTo ⟨⟨history, .clusters left u⟩, f'⟩ known (told ++ o.name?.toList) r v := by
  obtain ⟨hs, -⟩ | ⟨all, hs, rfl, hall⟩ := h.brings hr
  · cases hs
  cases hs
  obtain ⟨name, ho⟩ := hall o List.mem_cons_self
  have hname : o.name? = some name := history.clustersAt_named v name o ho
  obtain ⟨n, hn, -, hversion⟩ := History.clustersAt_stamped ho
  refine ⟨ht ▸ h.sound.upsert o, h.version_le, ?_, Or.inr ⟨n, ?_, Or.inr ⟨hn, rfl⟩⟩,
    fun _ => Or.inr ⟨left, rfl, rfl, fun o' ho' => hall o' (List.mem_cons_of_mem o ho')⟩⟩
  · rw [History.recalled_of_le le_rfl]
    intro other
    have hother := (History.recalled_of_le le_rfl).mp h.recalled other
    rw [names, Follower.names, ht, Topology.mem_names_upsert, ← List.append_assoc,
      List.mem_append, ← hother, Option.mem_toList, or_comm]
    rfl
  · rw [Follower.version, ht, Topology.version_upsert hname, hversion]
    rfl

/-- The next change is sent. -/
theorem send {history : History} {f f' : Follower μ} {e : Entry} {u : Nat}
    (h : RecoversTo ⟨⟨history, .changes u⟩, f⟩ known told r v)
    (hr : f.stage = .reading) (hnext : history.Next u e)
    (ht : f'.membership.topology = f.membership.topology.heed e.toChange) :
    RecoversTo ⟨⟨history, .changes e.version⟩, f'⟩ known told r e.version := by
  obtain ⟨hs, hle⟩ | ⟨left, hs, -⟩ := h.brings hr
  · cases hs
    refine ⟨ht ▸ h.sound.heed e.toChange, history.bounded e hnext.mem,
      h.recalled.next hnext hle fun name => ?_, Or.inr ⟨e.version, ?_, Or.inl rfl⟩,
      fun _ => Or.inl ⟨rfl, hle.trans hnext.after.le⟩⟩
    · rw [names, Follower.names, ht]
      exact Topology.mem_names_heed
    · rw [Follower.version, ht, Topology.version_heed, e.stamped]
      rfl
  · cases hs

/-- A bookmark is sent. -/
theorem mark {history : History} {f f' : Follower μ} {u b : Nat}
    (h : RecoversTo ⟨⟨history, .changes u⟩, f⟩ known told r v)
    (hr : f.stage = .reading) (hle : u ≤ b) (hb : b ≤ history.version)
    (hnone : ∀ e ∈ history.entries, u < e.version → b < e.version)
    (hversion : f'.version = toString b)
    (hvisible : f'.membership.topology.visible = f.membership.topology.visible) :
    RecoversTo ⟨⟨history, .changes b⟩, f'⟩ known told r b := by
  obtain ⟨hs, hrv⟩ | ⟨left, hs, -⟩ := h.brings hr
  · cases hs
    refine ⟨h.sound.of_visible_eq hvisible, hb, ?_, Or.inr ⟨b, hversion, Or.inl rfl⟩,
      fun _ => Or.inl ⟨rfl, hrv.trans hle⟩⟩
    rw [names, Follower.names, (Topology.visible_eq_iff.mp hvisible).1]
    exact h.recalled.mark hle hnone
  · cases hs

/-- Only a list leads away from this. -/
theorem step (h : s.RecoversTo known told r v) (hs : s.Step x s') (hx : ¬ x.IsList) :
    ∃ v', s'.RecoversTo known (x.told told) (x.origin r) v' := by
  obtain ⟨hub, f⟩ := s
  obtain ⟨hub', f'⟩ := s'
  obtain ⟨hhub, hf⟩ := hs
  dsimp only at hhub hf
  cases hhub with
  | grows hg =>
    obtain ⟨hk, hstage⟩ := hf.keeps_of_elsewhere h.sound
    exact ⟨v, h.keep hg hk fun hr =>
      (h.brings (hstage.symm.trans hr)).grown hg h.version_le⟩
  | refuses =>
    obtain ⟨hk, hstage⟩ := hf.keeps_of_refused
    exact ⟨v, h.keep (.refl _) hk fun hr => absurd hr hstage⟩
  | resumes =>
    obtain ⟨hk, hv⟩ := hf.keeps_of_opened
    exact ⟨_, h.resume hk hv⟩
  | begins hl =>
    obtain ⟨hk, hv⟩ := hf.keeps_of_opened
    exact ⟨_, h.begin hk hv hl⟩
  | tells =>
    obtain ⟨hr, ht⟩ := hf.upserted_of_added
    exact ⟨v, h.tell hr ht⟩
  | goesOn =>
    obtain ⟨hk, hstage⟩ := hf.keeps_of_elsewhere h.sound
    refine ⟨v, h.keep (.refl _) hk fun hr => ?_⟩
    obtain ⟨hs, -⟩ | ⟨left, hs, hvr, -⟩ := h.brings (hstage.symm.trans hr)
    · cases hs
    · cases hs
      exact Or.inl ⟨rfl, hvr.ge⟩
  | sends hnext =>
    obtain ⟨hr, ht⟩ := hf.heeded_of_event
    exact ⟨_, h.send hr hnext ht⟩
  | marks hle hb hnone =>
    obtain ⟨hr, hversion, hvisible⟩ := hf.noted_of_bookmark
    exact ⟨_, h.mark hr hle hb hnone hversion hvisible⟩
  | breaks hl =>
    obtain ⟨hk, hstage⟩ := hf.keeps_of_failure hl
    exact ⟨v, h.keep (.refl _) hk fun hr => absurd hr hstage⟩
  | ends =>
    obtain ⟨hk, hstage⟩ := hf.keeps_of_closed
    exact ⟨v, h.keep (.refl _) hk fun hr => absurd hr hstage⟩
  | lists => exact absurd trivial hx
  | fails => exact absurd trivial hx

/-- What is known is kept up from one move to the next. -/
theorem run (h : s.RecoversTo known told r v) (hr : s.Run xs s') (hx : ∀ x ∈ xs, ¬ x.IsList) :
    ∃ v', s'.RecoversTo known (xs.foldl Move.told told) (xs.foldl Move.origin r) v' := by
  induction hr generalizing told r v with
  | done => exact ⟨v, h⟩
  | @step s s₁ s₂ x xs hs _ ih =>
    obtain ⟨u, hu⟩ := h.step hs (hx x List.mem_cons_self)
    exact ih hu fun y hy => hx y (List.mem_cons_of_mem x hy)

end RecoversTo

end System

/-- After a list that failed and until there is another one, the names of the clusters that
have changed since the origin of the streams are right.  The others are those that were known
before or have been told of, and so the names are right exactly if these are. -/
theorem names_after_failed_list {s₀ s₁ s : System Manager} {xs : List Move} {v : Nat}
    (h₀ : s₀.follower.membership.topology.Reachable) (hfails : s₀.Step .fails s₁)
    (hrun : s₁.Run xs s) (hlists : ∀ x ∈ xs, ¬ x.IsList) (hreading : s.follower.stage = .reading)
    (hsent : s.hub.sender = .changes v) :
    let h := s.hub.history
    let origin := xs.foldl Move.origin 0
    let told := xs.foldl Move.told []
    (∀ name, name ∈ s.names ↔
      if h.ChangedIn origin v name then (h.clustersAt v name).isSome = true
      else name ∈ s₀.names ∨ name ∈ told) ∧
    ((∀ name, name ∈ s.names ↔ (h.clustersAt v name).isSome = true) ↔
      ∀ name, ¬ h.ChangedIn origin v name →
        (name ∈ s₀.names ∨ name ∈ told ↔ (h.clustersAt v name).isSome = true)) := by
  intro h origin told
  obtain ⟨u, hu⟩ := (System.RecoversTo.of_fails h₀.sound hfails).run hrun hlists
  have huv : u = v := by
    rcases hu.brings hreading with ⟨hs, -⟩ | ⟨left, hs, -⟩
    · exact Sender.changes.inj (hs.symm.trans hsent)
    · cases hs.symm.trans hsent
  subst huv
  have hnames : ∀ name, name ∈ s.names ↔
      if h.ChangedIn origin u name then (h.clustersAt u name).isSome = true
      else name ∈ s₀.names ∨ name ∈ told := fun name => by
    rw [← List.mem_append]
    exact hu.recalled name
  refine ⟨hnames, forall_congr' fun name => ?_⟩
  rw [hnames]
  split
  · next hc => exact iff_of_true Iff.rfl fun hn => absurd hc hn
  · next hc => exact ⟨fun hn _ => hn, fun hn => hn hc⟩

/-! ## A cluster that goes away while no stream is open -/

/-- The hub does not go back as far any more. -/
def expiryMoves : List Move :=
  [.resumes 3, .breaks (.event (.failed ⟨Membership.goneCode, "Expired", ""⟩))]

/-- One of the clusters goes away before the hub opens the next stream. -/
def recoveryMoves : List Move :=
  [.grows, .begins 5, .tells (Entry.ofName .created "b" 2).object, .goesOn]

theorem run_expiryMoves :
    (systemAt secondHistory 3 .idle ["a", "b"] "3").Run expiryMoves
      (systemAt secondHistory 3 .expired ["a", "b"] "3") := by
  have hopened : (systemAt secondHistory 3 .idle ["a", "b"] "3").Step (.resumes 3)
      (systemAt secondHistory 3 .reading ["a", "b"] "3") := ⟨.resumes, .opened⟩
  have hgone : (systemAt secondHistory 3 .reading ["a", "b"] "3").Step
      (.breaks (.event (.failed ⟨Membership.goneCode, "Expired", ""⟩)))
      (systemAt secondHistory 3 .expired ["a", "b"] "3") := ⟨.breaks trivial, .ended .expired rfl⟩
  exact .step hopened <| .step hgone .done

theorem exists_failedList :
    ∃ backoff, (systemAt secondHistory 3 .expired ["a", "b"] "3").Step .fails
      (systemAt secondHistory 3 .idle ["a", "b"] "" backoff) := by
  have hf := @Follower.Step.unlisted Manager
    (systemAt secondHistory 3 .expired ["a", "b"] "3").follower.membership
  rw [Membership.fail_eq] at hf
  exact ⟨_, .fails, hf⟩

theorem run_recoveryMoves (backoff : Backoff) :
    (systemAt secondHistory 3 .idle ["a", "b"] "" backoff).Run recoveryMoves
      (systemAt thirdHistory 5 .reading ["a", "b"] "2" backoff.reset) := by
  have hgrows : secondHistory.GrowsTo thirdHistory := ⟨⟨_, rfl, by decide⟩, by decide⟩
  have hbegins : (systemAt thirdHistory 3 .idle ["a", "b"] "" backoff).hub.Step (.begins 5)
      ⟨thirdHistory, .clusters thirdHistory.listing 5⟩ := .begins thirdHistory.listed_listing
  have htold : Follower.Step (systemAt thirdHistory 3 .reading ["a", "b"] "" backoff).follower
      (.line (.event (.added (Entry.ofName .created "b" 2).object)))
      (systemAt thirdHistory 5 .reading ["a", "b"] "2" backoff.reset).follower := .delivered rfl
  exact System.run_of_move (.grows hgrows) (.elsewhere .nothing) <|
    System.run_of_move hbegins .opened <| System.run_of_move .tells htold <|
    System.run_of_move .goesOn (.elsewhere .nothing) .done

/-- A cluster that has gone away without a word stays known. -/
theorem lost_cluster_stays_known :
    let s₀ := systemAt secondHistory 3 .expired ["a", "b"] "3"
    ∃ backoff,
      let s₁ := systemAt secondHistory 3 .idle ["a", "b"] "" backoff
      let s := systemAt thirdHistory 5 .reading ["a", "b"] "2" backoff.reset
      s₀.follower.membership.topology.Reachable ∧ s₀.Step .fails s₁ ∧ s₁.Run recoveryMoves s ∧
        (∀ x ∈ recoveryMoves, ¬ x.IsList) ∧ "a" ∈ s.names ∧ "b" ∈ s.names ∧
        ¬ ∀ name, name ∈ s.names ↔ (thirdHistory.clustersAt 5 name).isSome = true := by
  intro s₀
  obtain ⟨backoff, hfails⟩ := exists_failedList
  have hreach : s₀.follower.membership.topology.Reachable :=
    .replace secondHistory.listing "3" .empty
  have hlists : ∀ x ∈ recoveryMoves, ¬ x.IsList := by simp [recoveryMoves, Move.IsList]
  obtain ⟨hnames, hright⟩ :=
    names_after_failed_list hreach hfails (run_recoveryMoves backoff) hlists rfl rfl
  have hunchanged : ∀ name, ¬ thirdHistory.ChangedIn 5 5 name :=
    fun _ => History.not_changedIn_of_le le_rfl
  have hlost : ¬ (thirdHistory.clustersAt 5 "a").isSome = true := by decide
  have ha : "a" ∈ s₀.names := by decide
  have hb : "b" ∈ s₀.names := by decide
  exact ⟨backoff, hreach, hfails, run_recoveryMoves backoff, hlists,
    (hnames "a").mpr ((if_neg (hunchanged "a")).mpr (Or.inl ha)),
    (hnames "b").mpr ((if_neg (hunchanged "b")).mpr (Or.inl hb)),
    fun hall => hlost ((hright.mp hall "a" (hunchanged "a")).mp (Or.inl ha))⟩

/-- After a list that failed, the names are those of the clusters at any moment up to which
everything has been delivered. -/
def RecoversFully : Prop :=
  ∀ (s₀ s₁ s₂ s : System Manager) (xs ys : List Move) (v : Nat), s₀.Listed → s₀.Run xs s₁ →
    s₁.Step .fails s₂ → s₂.Run ys s → s.follower.stage = .reading → s.hub.sender = .changes v →
    ∀ name, name ∈ s.names ↔ (s.hub.history.clustersAt v name).isSome = true

/-- Nothing tells of a cluster that goes away while no stream is open. -/
theorem not_recoversFully_of_lost_cluster : ¬ RecoversFully := by
  intro h
  obtain ⟨backoff, hfails⟩ := exists_failedList
  have hlist : System.Listed ⟨⟨secondHistory, .changes 3⟩, .idle, (({} : Membership Manager).relist
      ⟨some (toString secondHistory.version), secondHistory.listing⟩).2⟩ :=
    .intro secondHistory.listed_listing
  have ha : "a" ∈ (systemAt thirdHistory 5 .reading ["a", "b"] "2").names := by decide
  have hlost : ¬ (thirdHistory.clustersAt 5 "a").isSome = true := by decide
  exact hlost ((h (systemAt secondHistory 3 .idle ["a", "b"] "3") _ _ _ _ _ 5 hlist
    run_expiryMoves hfails (run_recoveryMoves backoff) rfl rfl "a").mp ha)

end FleetGate
