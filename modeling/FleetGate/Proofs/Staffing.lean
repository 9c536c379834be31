import FleetGate.Proofs.Edits
import FleetGate.Proofs.Followers

/-!
# Who sits in the slots

Many calls look for the managers of clusters at the same time.  A call that finds a slot empty
builds a manager, and nothing is locked meanwhile.  Then it claims the slot, in which another
manager may sit by now.  In between clusters come and go, and all slots may be emptied.

A manager is told from all others by the call that built it (`Token`).  `Staffing.Step` has one
rule for each section that nothing comes between, and these do to a topology of tokens what they
do to a topology of managers.

Whoever was ever seated sits in the slot of its cluster or was handed out to be closed, and only
once.  Every section keeps it so (`Step.accounted`): the manager that a call has built was never
seated before, because whoever was seated belongs to a call that has its answer.
-/

namespace FleetGate

/-- A manager, by the call that built it and the cluster that it was built for. -/
structure Token where
  call : Nat
  cluster : String
deriving DecidableEq, Repr

/-- What a call comes to. -/
inductive Answer where
  | hub
  | manager (token : Token)
  | unknown
  /-- The manager could not be built. -/
  | unbuilt
deriving DecidableEq, Repr

/-- The call comes to a manager. -/
def Answer.IsManager : Answer → Prop
  | .hub | .manager _ => True
  | .unknown | .unbuilt => False

/-- Where a call stands. -/
inductive Errand where
  | waiting
  | building (cluster : String)
  | built (token : Token)
  | answered (cluster : String) (answer : Answer)
deriving DecidableEq, Repr

/-- Where a call stands that has looked a cluster up. -/
def Errand.ofSpot (cluster : String) : Topology.Spot Token → Errand
  | .hub => .answered cluster .hub
  | .held token => .answered cluster (.manager token)
  | .vacant => .building cluster
  | .unknown => .answered cluster .unknown

theorem Errand.ofSpot_ne_built {cluster : String} {spot : Topology.Spot Token} {token : Token} :
    ofSpot cluster spot ≠ .built token := by
  cases spot <;> exact nofun

theorem Errand.vacant_of_ofSpot {cluster other : String} {spot : Topology.Spot Token}
    (h : ofSpot cluster spot = .building other) : spot = .vacant ∧ other = cluster := by
  cases spot <;> cases h
  exact ⟨rfl, rfl⟩

/-- A look-up answers a call at once if it finds the hub, a manager, or no such cluster. -/
theorem Errand.answered_of_ofSpot {cluster other : String} {spot : Topology.Spot Token}
    {answer : Answer} (h : ofSpot cluster spot = .answered other answer) :
    other = cluster ∧ (spot = .hub ∧ answer = .hub ∨
      (∃ token, spot = .held token ∧ answer = .manager token) ∨
      spot = .unknown ∧ answer = .unknown) := by
  cases spot <;> cases h <;> simp

/-- The slots, the calls, and who was ever seated and handed out. -/
structure Staffing where
  topology : Topology Token
  errands : Nat → Errand
  stored : List Token := []
  closing : List Token := []

/-- The sections. -/
inductive Section where
  | look (call : Nat) (cluster : String)
  | build (call : Nat)
  | seat (call : Nat)
  | edit (e : Topology.Edit)

/-- A section that takes the slot of a cluster away or empties it. -/
def Section.Vacates (cluster : String) : Section → Prop
  | .edit e => e.Vacates cluster
  | _ => False

/-- A section in which no cluster comes or goes or becomes the hub. -/
def Section.Steady : Section → Prop
  | .edit (.upsert _) | .edit (.remove _) | .edit (.replace _ _) => False
  | _ => True

theorem Section.not_vacates_of_not_edit {x : Section} {cluster : String} (h : ∀ e, x ≠ .edit e) :
    ¬ x.Vacates cluster := by
  cases x with
  | edit e => exact absurd rfl (h e)
  | _ => exact id

theorem Section.steady_of_not_edit {x : Section} (h : ∀ e, x ≠ .edit e) : x.Steady := by
  cases x with
  | edit e => exact absurd rfl (h e)
  | _ => trivial

namespace Staffing

/-- A call goes on. -/
def turn (s : Staffing) (call : Nat) (e : Errand) : Staffing :=
  { s with errands := fun other => if other = call then e else s.errands other }

@[simp]
theorem errands_turn_self (s : Staffing) (call : Nat) (e : Errand) :
    (s.turn call e).errands call = e := if_pos rfl

theorem errands_turn_ne {s : Staffing} {call other : Nat} {e : Errand} (h : other ≠ call) :
    (s.turn call e).errands other = s.errands other := if_neg h

/-- What the errand of a call is after a turn, it has become by this turn or was before. -/
theorem errands_turn_cases {s : Staffing} {i j : Nat} {e e' : Errand}
    (h : (s.turn i e).errands j = e') : j = i ∧ e = e' ∨ s.errands j = e' := by
  by_cases hji : j = i
  · subst hji
    rw [errands_turn_self] at h
    exact Or.inl ⟨rfl, h⟩
  · rw [errands_turn_ne hji] at h
    exact Or.inr h

/-- What each section does. -/
inductive Step : Staffing → Section → Staffing → Prop where
  | look {s : Staffing} {i : Nat} {cluster : String} :
      s.errands i = .waiting →
      Step s (.look i cluster) (s.turn i (.ofSpot cluster (s.topology.find cluster)))
  | build {s : Staffing} {i : Nat} {cluster : String} :
      s.errands i = .building cluster → Step s (.build i) (s.turn i (.built ⟨i, cluster⟩))
  | fail {s : Staffing} {i : Nat} {cluster : String} :
      s.errands i = .building cluster → Step s (.build i) (s.turn i (.answered cluster .unbuilt))
  | seat {s : Staffing} {i : Nat} {token held : Token} {t : Topology Token} :
      s.errands i = .built token → s.topology.claim token.cluster token = some (held, t) →
      Step s (.seat i) { s.turn i (.answered token.cluster (.manager held)) with
        topology := t, stored := s.stored ++ if held = token then [token] else [] }
  | refuse {s : Staffing} {i : Nat} {token : Token} :
      s.errands i = .built token → s.topology.claim token.cluster token = none →
      Step s (.seat i) (s.turn i (.answered token.cluster .unknown))
  | edit {s : Staffing} {e : Topology.Edit} :
      e.NamesOnce → Step s (.edit e) { s with
        topology := (e.apply s.topology).2, closing := s.closing ++ (e.apply s.topology).1 }

/-- One section after the other. -/
abbrev Run : Staffing → List Section → Staffing → Prop := Steps Step

/-- Nobody sits in a slot, and no call has begun. -/
structure Opening (s : Staffing) : Prop where
  sound : s.topology.Sound
  vacant (cluster : String) : s.topology.held? cluster = none
  waiting (i : Nat) : s.errands i = .waiting
  stored_eq : s.stored = []
  closing_eq : s.closing = []

/-- Whoever was ever seated sits in the slot of its cluster or was handed out, and only once. -/
structure Accounted (s : Staffing) : Prop where
  sound : s.topology.Sound
  cluster_eq {cluster : String} {token : Token} :
    s.topology.held? cluster = some token → token.cluster = cluster
  mem_stored {token : Token} :
    token ∈ s.stored ↔ s.topology.held? token.cluster = some token ∨ token ∈ s.closing
  not_mem_closing {cluster : String} {token : Token} :
    s.topology.held? cluster = some token → token ∉ s.closing
  stored_nodup : s.stored.Nodup
  closing_nodup : s.closing.Nodup
  call_eq {i : Nat} {token : Token} : s.errands i = .built token → token.call = i
  answered {token : Token} :
    token ∈ s.stored → ∃ cluster answer, s.errands token.call = .answered cluster answer

namespace Accounted

variable {s : Staffing}

/-- At the opening nobody has built anything, so that there is no account to give. -/
theorem of_opening (h : s.Opening) : s.Accounted where
  sound := h.sound
  cluster_eq hheld := by simp [h.vacant] at hheld
  mem_stored := by simp [h.vacant, h.stored_eq, h.closing_eq]
  not_mem_closing hheld := by simp [h.vacant] at hheld
  stored_nodup := by simp [h.stored_eq]
  closing_nodup := by simp [h.closing_eq]
  call_eq hbuilt := by simp [h.waiting] at hbuilt
  answered hmem := by simp [h.stored_eq] at hmem

/-- A call that has no answer yet may go on. -/
theorem turn (h : s.Accounted) {i : Nat} {e : Errand}
    (hi : ∀ cluster answer, s.errands i ≠ .answered cluster answer)
    (he : ∀ token, e = .built token → token.call = i) : (s.turn i e).Accounted where
  sound := h.sound
  cluster_eq := h.cluster_eq
  mem_stored := h.mem_stored
  not_mem_closing := h.not_mem_closing
  stored_nodup := h.stored_nodup
  closing_nodup := h.closing_nodup
  call_eq {j token} hj := by
    rcases errands_turn_cases hj with ⟨rfl, hbuilt⟩ | hj
    · exact he token hbuilt
    · exact h.call_eq hj
  answered {token} hmem := by
    obtain ⟨cluster, answer, hans⟩ := h.answered hmem
    have hne : token.call ≠ i := fun heq => hi cluster answer (heq ▸ hans)
    exact ⟨cluster, answer, by rw [errands_turn_ne hne, hans]⟩

/-- No manager sits in two slots. -/
theorem nodup_slots (h : s.Accounted) : (s.topology.slots.filterMap (·.2)).Nodup := by
  refine List.pairwise_filterMap.mpr ?_
  have hkeys : s.topology.slots.Pairwise fun a b => a.1 < b.1 :=
    List.pairwise_map.mp h.sound.sorted
  refine hkeys.imp_of_mem fun {a b} ha hb hlt token hta token' htb he => ?_
  -- the token says which of the two slots it sits in
  have hcluster : ∀ slot ∈ s.topology.slots, slot.2 = some token → token.cluster = slot.1 :=
    fun slot hslot ht => h.cluster_eq (Topology.held?_of_get? (by
      rw [h.sound.sorted.get?_of_mem hslot, ht]))
  rw [← hcluster a ha hta, ← hcluster b hb (he ▸ htb)] at hlt
  exact String.lt_irrefl _ hlt

/-- No manager of a call without an answer was ever seated. -/
theorem not_mem_stored (h : s.Accounted) {token : Token}
    (hi : ∀ cluster answer, s.errands token.call ≠ .answered cluster answer) :
    token ∉ s.stored := by
  intro hmem
  obtain ⟨cluster, answer, hans⟩ := h.answered hmem
  exact hi cluster answer hans

/-- A manager that is built and has no seat was never stored. -/
theorem built_not_mem_stored (h : s.Accounted) {i : Nat} {token : Token}
    (hbuilt : s.errands i = .built token) : token ∉ s.stored :=
  h.not_mem_stored (by rw [h.call_eq hbuilt, hbuilt]; exact nofun)

/-- To seat a manager fills an empty slot with it, or gives up for whoever sits there. -/
theorem seat (h : s.Accounted) {i : Nat} {token held : Token} {t : Topology Token}
    (hbuilt : s.errands i = .built token)
    (hclaim : s.topology.claim token.cluster token = some (held, t)) :
    Accounted { s.turn i (.answered token.cluster (.manager held)) with
      topology := t, stored := s.stored ++ if held = token then [token] else [] } := by
  have hturn : (s.turn i (.answered token.cluster (.manager held))).Accounted :=
    h.turn (fun cluster answer hans => by simp [hbuilt] at hans) nofun
  have hfresh := h.built_not_mem_stored hbuilt
  obtain ⟨hmem, ⟨hheld, rfl⟩ | ⟨hvacant, rfl, rfl⟩⟩ := Topology.claim_cases hclaim
  · -- the slot is taken, and not by the manager that was built
    have hne : held ≠ token := fun he =>
      hfresh (h.mem_stored.mpr (Or.inl (by rw [hheld, he])))
    simp only [hne, if_false, List.append_nil]
    exact hturn
  · have hcall : held.call = i := h.call_eq hbuilt
    have hheld : ∀ cluster other, Topology.held?
        { s.topology with slots := Fields.insert held.cluster (some held) s.topology.slots }
          cluster = some other →
        cluster = held.cluster ∧ other = held ∨ s.topology.held? cluster = some other := by
      intro cluster other ht
      rw [Topology.held?_insert] at ht
      split at ht
      · next he => exact Or.inl ⟨he, (Option.some.inj ht).symm⟩
      · exact Or.inr ht
    simp only [if_true]
    refine ⟨h.sound.of_handled (.claim hclaim), fun {cluster other} ht => ?_, fun {other} => ?_,
      fun {cluster other} ht => ?_, ?_, h.closing_nodup, hturn.call_eq, fun {other} hmem => ?_⟩
    · rcases hheld cluster other ht with ⟨rfl, rfl⟩ | ht
      · rfl
      · exact h.cluster_eq ht
    · show other ∈ s.stored ++ [held] ↔ Topology.held? _ _ = _ ∨ other ∈ s.closing
      rw [List.mem_append, List.mem_singleton, h.mem_stored, Topology.held?_insert]
      by_cases hc : other.cluster = held.cluster
      · -- whoever else is of that cluster was handed out before
        have hnone : s.topology.held? other.cluster ≠ some other := by simp [hc, hvacant]
        rw [if_pos hc, Option.some_inj, or_iff_right hnone, or_comm, eq_comm]
      · have hne : other ≠ held := fun he => hc (by rw [he])
        rw [if_neg hc, or_iff_left hne]
    · show other ∉ s.closing
      rcases hheld cluster other ht with ⟨rfl, rfl⟩ | ht
      · exact fun hclosing => hfresh (h.mem_stored.mpr (Or.inr hclosing))
      · exact h.not_mem_closing ht
    · show (s.stored ++ [held]).Nodup
      rw [List.nodup_append']
      exact ⟨h.stored_nodup, List.nodup_singleton held, List.disjoint_singleton.mpr hfresh⟩
    · rcases List.mem_append.mp hmem with hmem | hmem
      · exact hturn.answered hmem
      · rw [List.mem_singleton.mp hmem, hcall]
        exact ⟨_, _, errands_turn_self _ _ _⟩

/-- An edit hands out whoever it unseats. -/
theorem edit (h : s.Accounted) {e : Topology.Edit} (ho : e.NamesOnce) :
    Accounted { s with
      topology := (e.apply s.topology).2, closing := s.closing ++ (e.apply s.topology).1 } := by
  have hkept : ∀ {cluster token}, (e.apply s.topology).2.held? cluster = some token →
      ¬ e.Vacates cluster ∧ s.topology.held? cluster = some token := by
    intro cluster token hheld
    have hv : ¬ e.Vacates cluster := fun hv =>
      Option.some_ne_none token (hheld.symm.trans (Topology.Edit.held?_apply_of_vacates ho hv))
    exact ⟨hv, (Topology.Edit.held?_apply ho hv).symm.trans hheld⟩
  have hout : ∀ {token}, token ∈ (e.apply s.topology).1 ↔
      e.Vacates token.cluster ∧ s.topology.held? token.cluster = some token := by
    intro token
    rw [Topology.Edit.mem_apply h.sound]
    constructor
    · rintro ⟨cluster, hv, hheld⟩
      rw [h.cluster_eq hheld]
      exact ⟨hv, hheld⟩
    · exact fun hboth => ⟨_, hboth⟩
  refine ⟨Topology.Edit.sound_apply h.sound, fun hheld => h.cluster_eq (hkept hheld).2,
    fun {token} => ?_, fun {cluster token} hheld => ?_, h.stored_nodup, ?_, h.call_eq,
    h.answered⟩
  · rw [List.mem_append, hout, h.mem_stored]
    by_cases hv : e.Vacates token.cluster
    · rw [Topology.Edit.held?_apply_of_vacates ho hv]
      simp [hv, or_comm]
    · rw [Topology.Edit.held?_apply ho hv]
      simp [hv]
  · obtain ⟨hv, hbefore⟩ := hkept hheld
    rw [← h.cluster_eq hbefore] at hv
    rw [List.mem_append, hout]
    exact not_or.mpr ⟨h.not_mem_closing hbefore, fun hboth => hv hboth.1⟩
  · refine List.nodup_append'.mpr ⟨h.closing_nodup, ?_, fun token hc ho => ?_⟩
    · exact h.nodup_slots.sublist Topology.Edit.apply_sublist
    · exact h.not_mem_closing (hout.mp ho).2 hc

end Accounted

/-- Every section keeps the account. -/
theorem Step.accounted {s s' : Staffing} {x : Section} (hstep : s.Step x s') (h : s.Accounted) :
    s'.Accounted := by
  cases hstep with
  | @look i cluster hi =>
    refine h.turn (fun cluster answer hans => by simp [hi] at hans) fun token he => ?_
    exact absurd he Errand.ofSpot_ne_built
  | @build i cluster hi =>
    refine h.turn (fun cluster answer hans => by simp [hi] at hans) fun token he => ?_
    cases he
    rfl
  | fail hi => exact h.turn (fun cluster answer hans => by simp [hi] at hans) nofun
  | seat hi hclaim => exact h.seat hi hclaim
  | refuse hi hclaim => exact h.turn (fun cluster answer hans => by simp [hi] at hans) nofun
  | edit ho => exact h.edit ho

/-- So every run keeps it. -/
theorem Run.accounted {s s' : Staffing} {xs : List Section} (h : Run s xs s')
    (hs : s.Accounted) : s'.Accounted := by
  induction h with
  | done => exact hs
  | step hx _ ih => exact ih (hx.accounted hs)

end Staffing

end FleetGate
