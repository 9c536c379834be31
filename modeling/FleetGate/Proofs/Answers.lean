import FleetGate.Proofs.Staffing

/-!
# What calls come to

A call gets its answer in one section (`Final`): when it looks its cluster up, when it cannot build
a manager, or when it claims the slot.

* A call that comes to a manager of a cluster comes to the one that sits in the slot then
  (`Final.held`).  It sits there until the slot is emptied (`Run.held_of_not_vacates`), so calls
  that answer in the meantime come to the same (`Final.agree`).
* A call whose cluster is gone when it claims the slot is told so (`step_seat_iff_of_lost`).
* `Orderly` puts together what holds in all states of a run.
* Where clusters neither come nor go nor become the hub, calls for the same cluster cannot come to
  managers of different kinds either (`Settled.agree`).
-/

namespace FleetGate

namespace Staffing

/-! ## The last section of a call -/

/-- The section in which a call gets its answer. -/
structure Final (s : Staffing) (x : Section) (i : Nat) (cluster : String) (answer : Answer)
    (s' : Staffing) : Prop where
  step : s.Step x s'
  before (cluster : String) (answer : Answer) : s.errands i ≠ .answered cluster answer
  after : s'.errands i = .answered cluster answer

namespace Final

variable {s s' : Staffing} {x : Section} {i : Nat} {cluster : String} {answer : Answer}
  {token : Token}

/-- A section that turns the errand of one call. -/
theorem eq_of_turn {j : Nat} {e : Errand} (h : Final s x i cluster answer s')
    (hs' : s'.errands = (s.turn j e).errands) : i = j ∧ e = .answered cluster answer := by
  have hafter := h.after
  rw [hs'] at hafter
  exact (errands_turn_cases hafter).resolve_right (h.before _ _)

/-- A call gets its answer when it looks the cluster up, when it cannot build a manager, or when
it claims the slot. -/
theorem cases (h : Final s x i cluster answer s') :
    x = .look i cluster ∧ s' = s.turn i (.answered cluster answer) ∧
        (s.topology.find cluster = .hub ∧ answer = .hub ∨
          (∃ token, s.topology.find cluster = .held token ∧ answer = .manager token) ∨
          s.topology.find cluster = .unknown ∧ answer = .unknown) ∨
      x = .build i ∧ s.errands i = .building cluster ∧ answer = .unbuilt ∨
      ∃ token, x = .seat i ∧ s.errands i = .built token ∧ token.cluster = cluster ∧
        ((∃ held, answer = .manager held ∧
            s.topology.claim cluster token = some (held, s'.topology)) ∨
          answer = .unknown ∧ s.topology.claim cluster token = none ∧
            s' = s.turn i (.answered cluster answer)) := by
  cases h.step with
  | @look j other hj =>
    obtain ⟨rfl, he⟩ := h.eq_of_turn rfl
    obtain ⟨rfl, hspot⟩ := Errand.answered_of_ofSpot he
    exact Or.inl ⟨rfl, by rw [he], hspot⟩
  | @build j other hj =>
    obtain ⟨-, he⟩ := h.eq_of_turn rfl
    cases he
  | @fail j other hj =>
    obtain ⟨rfl, he⟩ := h.eq_of_turn rfl
    cases he
    exact Or.inr (Or.inl ⟨rfl, hj, rfl⟩)
  | @seat j token held t hj hclaim =>
    obtain ⟨rfl, he⟩ := h.eq_of_turn rfl
    cases he
    exact Or.inr (Or.inr ⟨token, rfl, hj, rfl, Or.inl ⟨held, rfl, hclaim⟩⟩)
  | @refuse j token hj hclaim =>
    obtain ⟨rfl, he⟩ := h.eq_of_turn rfl
    cases he
    exact Or.inr (Or.inr ⟨token, rfl, hj, rfl, Or.inr ⟨rfl, hclaim, rfl⟩⟩)
  | edit ho => exact absurd h.after (h.before _ _)

/-- A call comes to the manager that sits in the slot of its cluster. -/
theorem held (h : Final s x i cluster (.manager token) s') :
    s'.topology.held? cluster = some token := by
  obtain ⟨-, rfl, ⟨-, he⟩ | ⟨other, hfind, he⟩ | ⟨-, he⟩⟩ | ⟨-, -, he⟩ |
    ⟨built, -, -, -, ⟨other, he, hclaim⟩ | ⟨he, -, -⟩⟩ := h.cases <;> cases he
  · exact Topology.held?_of_find hfind
  · exact (Topology.held?_of_claim hclaim).1

/-- A call comes to the manager of the hub only if it looks for the hub. -/
theorem hub (h : Final s x i cluster .hub s') :
    cluster = "" ∨ s.topology.hub? = some cluster := by
  obtain ⟨-, -, ⟨hfind, he⟩ | ⟨other, -, he⟩ | ⟨-, he⟩⟩ | ⟨-, -, he⟩ |
    ⟨built, -, -, -, ⟨other, he, -⟩ | ⟨he, -, -⟩⟩ := h.cases <;> cases he
  exact Topology.hub_of_find hfind

/-- A call comes to nothing only if there is no such cluster, and leaves all as it was. -/
theorem unknown (h : Final s x i cluster .unknown s') :
    cluster ∉ s.topology.names ∧ s' = s.turn i (.answered cluster .unknown) := by
  obtain ⟨-, hs', ⟨-, he⟩ | ⟨other, -, he⟩ | ⟨hfind, he⟩⟩ | ⟨-, -, he⟩ |
    ⟨built, -, -, -, ⟨other, he, -⟩ | ⟨he, hclaim, hs'⟩⟩ := h.cases <;> cases he
  · exact ⟨Topology.not_mem_of_find hfind, hs'⟩
  · exact ⟨Topology.not_mem_of_claim hclaim, hs'⟩

/-- It is no edit that answers a call. -/
theorem not_edit (h : Final s x i cluster answer s') (e : Topology.Edit) : x ≠ .edit e := by
  obtain ⟨rfl, -⟩ | ⟨rfl, -⟩ | ⟨built, rfl, -⟩ := h.cases <;> exact nofun

end Final

/-- Whoever sits in a slot stays there unless the slot is taken away or emptied. -/
theorem Step.held_of_not_vacates {s s' : Staffing} {x : Section} {cluster : String}
    {token : Token} (h : s.Step x s') (hx : ¬ x.Vacates cluster)
    (hheld : s.topology.held? cluster = some token) : s'.topology.held? cluster = some token := by
  cases h with
  | look hi => exact hheld
  | build hi => exact hheld
  | fail hi => exact hheld
  | @seat i built held t hi hclaim =>
    by_cases hc : cluster = built.cluster
    · subst hc
      rw [Topology.claim_of_held hheld] at hclaim
      cases hclaim
      exact hheld
    · exact ((Topology.held?_of_claim hclaim).2 cluster hc).trans hheld
  | refuse hi hclaim => exact hheld
  | edit ho => exact (Topology.Edit.held?_apply ho hx).trans hheld

theorem Run.held_of_not_vacates {s s' : Staffing} {xs : List Section} {cluster : String}
    {token : Token} (h : Run s xs s') (hxs : ∀ x ∈ xs, ¬ x.Vacates cluster)
    (hheld : s.topology.held? cluster = some token) : s'.topology.held? cluster = some token := by
  induction h with
  | done => exact hheld
  | step hx _ ih =>
    obtain ⟨hhead, htail⟩ := List.forall_mem_cons.mp hxs
    exact ih htail (hx.held_of_not_vacates hhead hheld)

/-- Two calls come to the same manager of a cluster if its slot is not emptied in between. -/
theorem Final.agree {s s₁ s₂ s₃ : Staffing} {x y : Section} {ys : List Section} {i j : Nat}
    {cluster : String} {token token' : Token} (h : Final s x i cluster (.manager token) s₁)
    (hr : Run s₁ ys s₂) (h' : Final s₂ y j cluster (.manager token') s₃)
    (hys : ∀ z ∈ ys, ¬ z.Vacates cluster) : token = token' := by
  have hheld := hr.held_of_not_vacates hys h.held
  have hy : ¬ y.Vacates cluster := Section.not_vacates_of_not_edit h'.not_edit
  exact Option.some.inj ((h'.step.held_of_not_vacates hy hheld).symm.trans h'.held)

/-! ## What holds throughout -/

/-- A manager sits in the slot of its cluster and in no other, and was not handed out. -/
def Seated (s : Staffing) (token : Token) : Prop :=
  (∀ cluster, s.topology.held? cluster = some token ↔ cluster = token.cluster) ∧
    token ∉ s.closing

/-- A manager sits in no slot and was handed out once. -/
def Released (s : Staffing) (token : Token) : Prop :=
  (∀ cluster, s.topology.held? cluster ≠ some token) ∧ s.closing.count token = 1

theorem Accounted.seated {s : Staffing} {cluster : String} {token : Token} (h : s.Accounted)
    (hheld : s.topology.held? cluster = some token) : s.Seated token := by
  refine ⟨fun other => ⟨fun hc => (h.cluster_eq hc).symm, ?_⟩, h.not_mem_closing hheld⟩
  rintro rfl
  rw [h.cluster_eq hheld, hheld]

theorem Accounted.mem_stored_iff {s : Staffing} {token : Token} (h : s.Accounted) :
    token ∈ s.stored ↔ s.Seated token ∨ s.Released token := by
  rw [h.mem_stored]
  by_cases hheld : s.topology.held? token.cluster = some token
  · exact iff_of_true (Or.inl hheld) (Or.inl (h.seated hheld))
  · have hnot : ¬ s.Seated token := fun hs => hheld ((hs.1 _).mpr rfl)
    rw [or_iff_right hheld, or_iff_right hnot]
    constructor
    · intro hmem
      refine ⟨fun cluster hc => hheld (h.cluster_eq hc ▸ hc), ?_⟩
      exact List.count_eq_one_of_mem h.closing_nodup hmem
    · rintro ⟨-, hcount⟩
      exact List.count_pos_iff.mp (by rw [hcount]; exact Nat.one_pos)

/-- Only the call that built a manager seats it, and only in the empty slot of a cluster that is
there. -/
theorem Step.stored_cases {s s' : Staffing} {x : Section} (h : s.Step x s') (hs : s.Accounted) :
    s'.stored = s.stored ∨ ∃ i token, x = .seat i ∧ s.errands i = .built token ∧
      token.cluster ∈ s.topology.names ∧ s.topology.held? token.cluster = none ∧
      s'.topology.held? token.cluster = some token ∧ s'.stored = s.stored ++ [token] := by
  cases h with
  | look hi => exact Or.inl rfl
  | build hi => exact Or.inl rfl
  | fail hi => exact Or.inl rfl
  | @seat i token held t hi hclaim =>
    obtain ⟨hmem, ⟨hheld, -⟩ | ⟨hvacant, rfl, -⟩⟩ := Topology.claim_cases hclaim
    · have hne : held ≠ token := fun he =>
        hs.built_not_mem_stored hi (hs.mem_stored.mpr (Or.inl (by rw [hheld, he])))
      exact Or.inl (by simp [hne])
    · exact Or.inr ⟨i, held, rfl, hi, hmem, hvacant, (Topology.held?_of_claim hclaim).1,
        by simp⟩
  | refuse hi hclaim => exact Or.inl rfl
  | edit ho => exact Or.inl rfl

/-- No call changes which clusters there are. -/
theorem Step.visible_eq {s s' : Staffing} {x : Section} (h : s.Step x s')
    (hs : s.topology.Sound) (hx : ∀ e, x ≠ .edit e) : s'.topology.visible = s.topology.visible := by
  cases h with
  | look hi => rfl
  | build hi => rfl
  | fail hi => rfl
  | seat hi hclaim => exact (hs.handled (.claim hclaim)).1
  | refuse hi hclaim => rfl
  | @edit e ho => exact absurd rfl (hx e)

/-- A call that has built a manager for a cluster that is gone by now gets told so. -/
theorem step_seat_iff_of_lost {s s' : Staffing} {i : Nat} {token : Token}
    (hi : s.errands i = .built token) (hlost : token.cluster ∉ s.topology.names) :
    s.Step (.seat i) s' ↔ s' = s.turn i (.answered token.cluster .unknown) := by
  have hnone : s.topology.claim token.cluster token = none := Topology.claim_of_unknown hlost
  constructor
  · intro h
    cases h with
    | @seat _ built held t hbuilt hclaim =>
      cases hi.symm.trans hbuilt
      cases hnone.symm.trans hclaim
    | @refuse _ built hbuilt _ =>
      cases hi.symm.trans hbuilt
      rfl
  · rintro rfl
    exact .refuse hi hnone

/-- A call that has built a manager for a cluster that is there comes to a manager next. -/
theorem exists_final_of_built {s : Staffing} {i : Nat} {token : Token}
    (hi : s.errands i = .built token) (hmem : token.cluster ∈ s.topology.names) :
    ∃ held s', Final s (.seat i) i token.cluster (.manager held) s' := by
  cases hclaim : s.topology.claim token.cluster token with
  | none => exact absurd hmem (Topology.not_mem_of_claim hclaim)
  | some claimed =>
    refine ⟨claimed.1, _, .seat hi hclaim, fun cluster answer hans => ?_, ?_⟩
    · rw [hi] at hans
      cases hans
    · exact errands_turn_self s i _

/-- What holds whatever has happened so far. -/
structure Orderly (s : Staffing) : Prop where
  /-- Whoever was ever seated sits in the slot of its cluster, or was handed out once. -/
  stored_iff (token : Token) : token ∈ s.stored ↔ s.Seated token ∨ s.Released token
  seated {cluster : String} {token : Token} :
    s.topology.held? cluster = some token → s.Seated token
  /-- A manager is seated by the call that built it, in an empty slot of a cluster that is
  there. -/
  seats {x : Section} {s' : Staffing} : s.Step x s' →
    s'.stored = s.stored ∨ ∃ i token, x = .seat i ∧ s.errands i = .built token ∧
      token.cluster ∈ s.topology.names ∧ s.topology.held? token.cluster = none ∧
      s'.topology.held? token.cluster = some token ∧ s'.stored = s.stored ++ [token]
  /-- No call changes which clusters there are. -/
  visible_eq {x : Section} {s' : Staffing} : s.Step x s' → (∀ e, x ≠ .edit e) →
    s'.topology.visible = s.topology.visible
  /-- A call that comes to a manager comes to the one that sits in the slot. -/
  manager {x : Section} {s' : Staffing} {i : Nat} {cluster : String} {token : Token} :
    Final s x i cluster (.manager token) s' → s'.topology.held? cluster = some token
  hub {x : Section} {s' : Staffing} {i : Nat} {cluster : String} :
    Final s x i cluster .hub s' → cluster = "" ∨ s.topology.hub? = some cluster
  unknown {x : Section} {s' : Staffing} {i : Nat} {cluster : String} :
    Final s x i cluster .unknown s' → cluster ∉ s.topology.names
  found {i : Nat} {token : Token} : s.errands i = .built token →
    token.cluster ∈ s.topology.names →
    ∃ held s', Final s (.seat i) i token.cluster (.manager held) s'
  /-- A call whose cluster is gone by now gets told so, and seats nobody. -/
  lost {i : Nat} {token : Token} {s' : Staffing} : s.errands i = .built token →
    token.cluster ∉ s.topology.names →
    (s.Step (.seat i) s' ↔ s' = s.turn i (.answered token.cluster .unknown))
  /-- Two calls come to the same manager of a cluster if its slot was not emptied in between. -/
  agree {s₁ s₂ s₃ : Staffing} {x y : Section} {ys : List Section} {i j : Nat} {cluster : String}
    {token token' : Token} : Final s x i cluster (.manager token) s₁ → Run s₁ ys s₂ →
    Final s₂ y j cluster (.manager token') s₃ → (∀ z ∈ ys, ¬ z.Vacates cluster) →
    token = token'

theorem Accounted.orderly {s : Staffing} (h : s.Accounted) : s.Orderly where
  stored_iff _ := h.mem_stored_iff
  seated := h.seated
  seats hx := hx.stored_cases h
  visible_eq hx := hx.visible_eq h.sound
  manager hf := hf.held
  hub hf := hf.hub
  unknown hf := hf.unknown.1
  found := exists_final_of_built
  lost := step_seat_iff_of_lost
  agree hf hr hf' hys := hf.agree hr hf' hys

/-! ## Clusters that stay -/

/-- The clusters are those of a topology, and calls build managers only for those of its clusters
that have slots. -/
structure Settled (t : Topology Token) (s : Staffing) : Prop where
  visible_eq : s.topology.visible = t.visible
  building {i : Nat} {cluster : String} : s.errands i = .building cluster → t.HasSlot cluster
  built {i : Nat} {token : Token} : s.errands i = .built token → t.HasSlot token.cluster

namespace Settled

variable {t u : Topology Token} {s s' : Staffing} {x : Section} {i : Nat} {cluster : String}
  {answer : Answer}

theorem of_opening (h : s.Opening) : s.Settled s.topology where
  visible_eq := rfl
  building hi := by simp [h.waiting] at hi
  built hi := by simp [h.waiting] at hi

theorem hasSlot_iff (h : s.Settled t) : s.topology.HasSlot cluster ↔ t.HasSlot cluster :=
  Topology.hasSlot_iff_of_visible_eq h.visible_eq

theorem turn (h : s.Settled t) {e : Errand}
    (hbuilding : ∀ cluster, e = .building cluster → t.HasSlot cluster)
    (hbuilt : ∀ token, e = .built token → t.HasSlot token.cluster) : (s.turn i e).Settled t where
  visible_eq := h.visible_eq
  building {j cluster} hj := by
    rcases errands_turn_cases hj with ⟨-, he⟩ | hj
    · exact hbuilding cluster he
    · exact h.building hj
  built {j token} hj := by
    rcases errands_turn_cases hj with ⟨-, he⟩ | hj
    · exact hbuilt token he
    · exact h.built hj

theorem of_handled (h : s.Settled t) (hs : s.topology.Sound) (hu : s.topology.Handled u)
    {stored closing : List Token} : Settled t { s with topology := u, stored, closing } where
  visible_eq := (hs.handled hu).1.trans h.visible_eq
  building := h.building
  built := h.built

theorem step (h : s.Settled t) (hs : s.topology.Sound) (hstep : s.Step x s') (hx : x.Steady) :
    s'.Settled t := by
  cases hstep with
  | @look i cluster hi =>
    refine h.turn (fun other he => ?_) fun token he => absurd he Errand.ofSpot_ne_built
    obtain ⟨hfind, rfl⟩ := Errand.vacant_of_ofSpot he
    exact h.hasSlot_iff.mp (Topology.hasSlot_of_find (Or.inl hfind))
  | @build i cluster hi =>
    refine h.turn nofun fun token he => ?_
    cases he
    exact h.building hi
  | fail hi => exact h.turn nofun nofun
  | @seat i token held u hi hclaim =>
    have hturn : (s.turn i (.answered token.cluster (.manager held))).Settled t :=
      h.turn nofun nofun
    exact hturn.of_handled hs (.claim hclaim)
  | refuse hi hclaim => exact h.turn nofun nofun
  | @edit e ho =>
    cases e with
    | upsert o => exact hx.elim
    | remove o => exact hx.elim
    | replace objects version => exact hx.elim
    | note version => exact ⟨h.visible_eq, h.building, h.built⟩
    | watch => exact h.of_handled hs .watch
    | drain => exact h.of_handled hs .drain

/-- Which kind of manager a call comes to is a matter of the cluster alone. -/
theorem eq_hub_iff (h : s.Settled t) (hf : Final s x i cluster answer s')
    (hm : answer.IsManager) : answer = .hub ↔ ¬ t.HasSlot cluster := by
  cases answer with
  | hub => exact iff_of_true rfl fun hslot => (h.hasSlot_iff.mpr hslot).2 hf.hub
  | manager token =>
    refine iff_of_false nofun (not_not.mpr ?_)
    obtain ⟨-, -, ⟨-, he⟩ | ⟨other, hfind, he⟩ | ⟨-, he⟩⟩ | ⟨-, -, he⟩ |
      ⟨built, -, hbuilt, rfl, -⟩ := hf.cases
    · cases he
    · exact h.hasSlot_iff.mp (Topology.hasSlot_of_find (Or.inr ⟨other, hfind⟩))
    · cases he
    · cases he
    · exact h.built hbuilt
  | unknown => exact hm.elim
  | unbuilt => exact hm.elim

end Settled

theorem Run.settled {s s' : Staffing} {xs : List Section} {t : Topology Token} (h : Run s xs s')
    (hs : s.Accounted) (ht : s.Settled t) (hxs : ∀ x ∈ xs, x.Steady) : s'.Settled t := by
  induction h with
  | done => exact ht
  | step hx _ ih =>
    obtain ⟨hhead, htail⟩ := List.forall_mem_cons.mp hxs
    exact ih (hx.accounted hs) (ht.step hs.sound hx hhead) htail

/-- Where no cluster comes or goes, two calls for the same one that come to a manager come to the
same one, if its slot was not emptied in between. -/
theorem Settled.agree {t : Topology Token} {s s₁ s₂ s₃ : Staffing} {x y : Section}
    {ys : List Section} {i j : Nat} {cluster : String} {a b : Answer} (h : s.Settled t)
    (hs : s.Accounted) (hf : Final s x i cluster a s₁) (hr : Run s₁ ys s₂)
    (hys : ∀ z ∈ ys, z.Steady) (hkept : ∀ z ∈ ys, ¬ z.Vacates cluster)
    (hf' : Final s₂ y j cluster b s₃) (ha : a.IsManager) (hb : b.IsManager) : a = b := by
  have hx : x.Steady := Section.steady_of_not_edit hf.not_edit
  have hsettled := hr.settled (hf.step.accounted hs) (h.step hs.sound hf.step hx) hys
  -- neither call can come to the hub alone, and two managers of clusters agree anyway
  have hkind : a = .hub ↔ b = .hub := (h.eq_hub_iff hf ha).trans (hsettled.eq_hub_iff hf' hb).symm
  cases a with
  | hub => exact (hkind.mp rfl).symm
  | manager token =>
    cases b with
    | hub => exact hkind.mpr rfl
    | manager token' => exact congrArg _ (hf.agree hr hf' hkept)
    | unknown => exact hb.elim
    | unbuilt => exact hb.elim
  | unknown => exact ha.elim
  | unbuilt => exact ha.elim

end Staffing

end FleetGate
