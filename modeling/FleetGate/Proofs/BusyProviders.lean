import FleetGate.Proofs.Answers
import FleetGate.Proofs.Defaults
import FleetGate.Proofs.Rosters
import Mathlib.Data.List.ReduceOption

/-!
# Providers with many calls

While calls for targets are under way, a provider does one section at a time
(`BusyProvider.Step`): those of the calls, edits of its roster, and what its managers do.

* Managers change while they sit in their slots, so they are told apart by tokens.  A heap says
  which manager each token is now (`BusyProvider.Shows`).
* Whatever a provider does is done to a staffing of tokens too (`Step.mirrored`, `Run.mirrored`).
  At first there are none (`Opening.exists_mirror`).
* So what holds of the staffing holds of the provider (`Mirrored.kept`).  In particular
  `managers_are_unique_and_accounted_for`.
* A kubeconfig never changes its targets, so two calls for the same one agree
  (`callsAgree_of_steady`).  At a hub they do not have to, because a cluster can become the hub
  (`not_callsAgree_of_local`).
-/

namespace FleetGate

open FleetGate.Topology (Edit)
variable {K : LazyKind}

/-- Where a call stands. -/
inductive LazyKind.Call (K : LazyKind) where
  | waiting
  | building (target : String)
  | built (target : String) (g : Manager)
  | answered (target : String) (result : Except FleetError K.Seat)

/-- Where a call stands that has looked a target up. -/
def LazyKind.Call.ofLookup (target : String) : Except FleetError (K.Seat × Bool) → K.Call
  | .ok (seat, true) => .answered target (.ok seat)
  | .ok (_, false) => .building target
  | .error e => .answered target (.error e)

/-- A provider, the calls for its targets, and the managers that were handed out to be closed. -/
structure BusyProvider (K : LazyKind) where
  provider : K.Provider
  calls : Nat → K.Call
  closing : List Manager := []

namespace BusyProvider

/-- No call has begun. -/
def idle (p : K.Provider) : BusyProvider K where
  provider := p
  calls _ := .waiting

/-- A call goes on. -/
def turn (b : BusyProvider K) (i : Nat) (c : K.Call) : BusyProvider K :=
  { b with calls := fun j => if j = i then c else b.calls j }

/-- What is done in one section. -/
inductive Step : BusyProvider K → Option Section → BusyProvider K → Prop where
  | look {b : BusyProvider K} {i : Nat} {target : String} : b.calls i = .waiting →
      Step b (some (.look i target)) (b.turn i (.ofLookup target (K.lookup b.provider target)))
  | build {b : BusyProvider K} {i : Nat} {target : String} {g : Manager} :
      b.calls i = .building target → K.build b.provider target = .ok g →
      Step b (some (.build i)) (b.turn i (.built target g))
  | fail {b : BusyProvider K} {i : Nat} {target : String} {e : FleetError} :
      b.calls i = .building target → K.build b.provider target = .error e →
      Step b (some (.build i)) (b.turn i (.answered target (.error e)))
  | seat {b : BusyProvider K} {i : Nat} {target : String} {g : Manager} {seat : K.Seat}
      {q : K.Provider} :
      b.calls i = .built target g → K.seat target g b.provider = .ok (seat, q) →
      Step b (some (.seat i)) { b.turn i (.answered target (.ok seat)) with provider := q }
  | refuse {b : BusyProvider K} {i : Nat} {target : String} {g : Manager} {e : FleetError} :
      b.calls i = .built target g → K.seat target g b.provider = .error e →
      Step b (some (.seat i)) (b.turn i (.answered target (.error e)))
  | edit {b : BusyProvider K} {e : Edit} {out : List Manager} {q : K.Provider} :
      K.Edits e b.provider out q →
      Step b (some (.edit e)) { b with provider := q, closing := b.closing ++ out }
  /-- A manager that sits in a slot has done something. -/
  | work {b : BusyProvider K} {target : String} {g g' : Manager} :
      (K.roster b.provider).held? target = some g → g.SameMake g' →
      Step b none { b with provider := K.setManager g' b.provider (K.other target) }
  | workMain {b : BusyProvider K} {g : Manager} : (K.managerAt b.provider K.main).SameMake g →
      Step b none { b with provider := K.setManager g b.provider K.main }

/-- One section after the other. -/
abbrev Run : BusyProvider K → List (Option Section) → BusyProvider K → Prop := Steps Step

/-- The section in which a call gets its answer. -/
structure Final (b : BusyProvider K) (x : Option Section) (i : Nat) (target : String)
    (result : Except FleetError K.Seat) (b' : BusyProvider K) : Prop where
  step : b.Step x b'
  before (target : String) (result : Except FleetError K.Seat) :
    b.calls i ≠ .answered target result
  after : b'.calls i = .answered target result

/-- No manager was made yet, and no call has begun. -/
structure Opening (b : BusyProvider K) : Prop where
  sound : (K.roster b.provider).Sound
  vacant (target : String) : (K.roster b.provider).held? target = none
  waiting (i : Nat) : b.calls i = .waiting
  closing_eq : b.closing = []

/-! ## Tokens of managers -/

/-- What a call comes to is what its errand comes to. -/
inductive ShowsCall (heap : Token → Manager) : K.Call → Errand → Prop where
  | waiting : ShowsCall heap .waiting .waiting
  | building (target : String) : ShowsCall heap (.building target) (.building target)
  | built (token : Token) : ShowsCall heap (.built token.cluster (heap token)) (.built token)
  | hub (target : String) :
      ShowsCall heap (.answered target (.ok K.main)) (.answered target .hub)
  | manager (target : String) (token : Token) :
      ShowsCall heap (.answered target (.ok (K.other target))) (.answered target (.manager token))
  | unknown (target : String) :
      ShowsCall heap (.answered target (.error (.unknownTarget K.parameter target)))
        (.answered target .unknown)
  | unbuilt (target : String) (e : FleetError) :
      ShowsCall heap (.answered target (.error e)) (.answered target .unbuilt)

/-- The slots hold the managers of the tokens, and so it is with the calls and with what was handed
out. -/
structure Shows (heap : Token → Manager) (b : BusyProvider K) (s : Staffing) : Prop where
  roster_eq : K.roster b.provider = s.topology.map heap
  calls (i : Nat) : ShowsCall heap (b.calls i) (s.errands i)
  closing_eq : b.closing = s.closing.map heap

namespace Shows

variable {heap : Token → Manager} {b : BusyProvider K} {s : Staffing} {i : Nat}

theorem turn (h : b.Shows heap s) {c : K.Call} {e : Errand} (hc : ShowsCall heap c e) :
    (b.turn i c).Shows heap (s.turn i e) where
  roster_eq := h.roster_eq
  calls j := by
    by_cases hj : j = i
    · subst hj
      simpa [BusyProvider.turn] using hc
    · rw [Staffing.errands_turn_ne hj]
      simpa [BusyProvider.turn, hj] using h.calls j
  closing_eq := h.closing_eq

/-- A token gets another manager, if no call and nobody else keeps the one that it had. -/
theorem update (h : b.Shows heap s) {token : Token} {g : Manager} {q : K.Provider}
    (hroster : K.roster q = s.topology.map (Function.update heap token g))
    (hbuilt : ∀ j, s.errands j ≠ .built token) (hclosing : token ∉ s.closing) :
    { b with provider := q }.Shows (Function.update heap token g) s where
  roster_eq := hroster
  calls j := by
    have hcall := h.calls j
    have hj := hbuilt j
    generalize b.calls j = c at hcall
    generalize s.errands j = e at hcall hj
    cases hcall with
    | waiting => exact .waiting
    | building target => exact .building target
    | built other =>
      have hne : other ≠ token := fun he => hj (he ▸ rfl)
      rw [← Function.update_of_ne hne g heap]
      exact .built other
    | hub target => exact .hub target
    | manager target other => exact .manager target other
    | unknown target => exact .unknown target
    | unbuilt target e => exact .unbuilt target e
  closing_eq := by
    rw [h.closing_eq]
    refine List.map_congr_left fun other hother => (Function.update_of_ne ?_ g heap).symm
    exact fun he => hclosing (he ▸ hother)

end Shows

/-! ## Sections of a provider and of its staffing -/

variable {heap : Token → Manager} {b b' : BusyProvider K} {s : Staffing} {x : Option Section}
  {xs : List (Option Section)}

theorem ShowsCall.ofLookup {p : K.Provider} (h : K.roster p = s.topology.map heap)
    (target : String) : ShowsCall heap (LazyKind.Call.ofLookup target (K.lookup p target))
      (Errand.ofSpot target (s.topology.find target)) := by
  rw [K.lookup_eq, h, Topology.find_map]
  cases s.topology.find target with
  | hub => exact .hub target
  | held token => exact .manager target token
  | vacant => exact .building target
  | unknown => exact .unknown target

/-- A staffing that mirrors a provider. -/
structure Mirrored (heap : Token → Manager) (b : BusyProvider K) (s : Staffing) : Prop
    extends Shows heap b s where
  accounted : s.Accounted
  settled : K.isSteady → ∃ t, s.Settled t

/-- A call that has built a manager does to the slots what it does to their tokens. -/
theorem Mirrored.seat (h : b.Mirrored heap s) {i : Nat} {token : Token}
    (hi : s.errands i = .built token) :
    (∃ held t q, s.topology.claim token.cluster token = some (held, t) ∧
      K.seat token.cluster (heap token) b.provider = .ok (K.other token.cluster, q) ∧
      K.roster q = t.map heap) ∨
    s.topology.claim token.cluster token = none ∧
      K.seat token.cluster (heap token) b.provider =
        .error (.unknownTarget K.parameter token.cluster) := by
  have hclaim : (K.roster b.provider).claim token.cluster (heap token) =
      (s.topology.claim token.cluster token).map (Prod.map heap (Topology.map heap)) := by
    rw [h.roster_eq, Topology.claim_map]
  cases hc : s.topology.claim token.cluster token with
  | some claimed =>
    obtain ⟨held, t⟩ := claimed
    rw [hc] at hclaim
    obtain ⟨q, hq, hroster⟩ := K.seat_eq hclaim
    exact Or.inl ⟨held, t, q, rfl, hq, hroster⟩
  | none =>
    rw [hc] at hclaim
    refine Or.inr ⟨rfl, K.seat_none (fun hsteady => ?_) hclaim⟩
    -- where no target goes away the slot is still there
    obtain ⟨t, hset⟩ := h.settled hsteady
    exact Topology.not_mem_of_claim hc (hset.hasSlot_iff.mpr (hset.built hi)).1

/-- Whatever a provider does in a section is done to its staffing. -/
theorem Step.simulated (hx : b.Step x b') (h : b.Mirrored heap s) :
    ∃ heap' s', b'.Shows heap' s' ∧ Staffing.Run s x.toList s' := by
  have hs := h.accounted
  cases hx with
  | @look i target hi =>
    have hcall := h.calls i
    rw [hi] at hcall
    generalize he : s.errands i = errand at hcall
    cases hcall
    exact ⟨heap, _, h.turn (.ofLookup h.roster_eq target), .step (.look he) .done⟩
  | @build i target g hi hbuilt =>
    have hcall := h.calls i
    rw [hi] at hcall
    generalize he : s.errands i = errand at hcall
    cases hcall
    -- the call has no answer yet, so its token is new
    have hnew : (⟨i, target⟩ : Token) ∉ s.stored := hs.not_mem_stored (by rw [he]; exact nofun)
    have hroster : K.roster b.provider =
        s.topology.map (Function.update heap ⟨i, target⟩ g) := by
      rw [h.roster_eq]
      refine Topology.map_congr hs.sound fun other token hheld => ?_
      have hne : token ≠ ⟨i, target⟩ := fun hsame =>
        hnew (hsame ▸ hs.mem_stored.mpr (Or.inl (hs.cluster_eq hheld ▸ hheld)))
      rw [Function.update_of_ne hne]
    have hshows := h.update hroster
      (fun j hj => by
        have hij : i = j := hs.call_eq hj
        rw [← hij, he] at hj
        cases hj)
      (fun hmem => hnew (hs.mem_stored.mpr (Or.inr hmem)))
    have hbuilds : ShowsCall (K := K) (Function.update heap ⟨i, target⟩ g) _ _ :=
      .built ⟨i, target⟩
    rw [Function.update_self] at hbuilds
    exact ⟨_, _, hshows.turn hbuilds, .step (.build he) .done⟩
  | @fail i target e hi hbuilt =>
    have hcall := h.calls i
    rw [hi] at hcall
    generalize he : s.errands i = errand at hcall
    cases hcall
    exact ⟨heap, _, h.turn (.unbuilt target e), .step (.fail he) .done⟩
  | @seat i target g seat q hi hseat =>
    have hcall := h.calls i
    rw [hi] at hcall
    generalize he : s.errands i = errand at hcall
    cases hcall with
    | built token =>
      obtain ⟨held, t, q', hclaim, hq, hroster⟩ | ⟨-, hq⟩ := h.seat he
      · cases hseat.symm.trans hq
        have hturn := h.turn (i := i) (.manager token.cluster held)
        refine ⟨heap, _, ?_, .step (.seat he hclaim) .done⟩
        exact ⟨hroster, hturn.calls, hturn.closing_eq⟩
      · cases hseat.symm.trans hq
  | @refuse i target g e hi hseat =>
    have hcall := h.calls i
    rw [hi] at hcall
    generalize he : s.errands i = errand at hcall
    cases hcall with
    | built token =>
      obtain ⟨held, t, q', -, hq, -⟩ | ⟨hclaim, hq⟩ := h.seat he
      · cases hseat.symm.trans hq
      · cases hseat.symm.trans hq
        exact ⟨heap, _, h.turn (.unknown token.cluster), .step (.refuse he hclaim) .done⟩
  | @edit e out q hedits =>
    obtain ⟨ho, happly⟩ := K.edits_eq hedits
    rw [h.roster_eq, Edit.apply_map] at happly
    refine ⟨heap, _, ?_, .step (.edit ho) .done⟩
    refine ⟨(congrArg Prod.snd happly).symm, h.calls, ?_⟩
    rw [List.map_append, h.closing_eq]
    exact congrArg _ (congrArg Prod.fst happly).symm
  | @work target g g' hheld hg =>
    rw [h.roster_eq, Topology.held?_map] at hheld
    obtain ⟨token, htoken, rfl⟩ := Option.map_eq_some_iff.mp hheld
    have hcluster := hs.cluster_eq htoken
    have hroster : K.roster (K.setManager g' b.provider (K.other target)) =
        s.topology.map (Function.update heap token g') := by
      rw [K.setManager_eq, h.roster_eq]
      exact Topology.update_map hs.sound htoken
        (fun other hother => (hs.cluster_eq hother).symm.trans hcluster) g'
    have hstored : token ∈ s.stored := hs.mem_stored.mpr (Or.inl (by rw [hcluster, htoken]))
    exact ⟨_, s, h.update hroster (fun j hj => hs.built_not_mem_stored hj hstored)
      (hs.not_mem_closing htoken), .done⟩
  | @workMain g hg =>
    exact ⟨heap, s, ⟨(K.setManager_main hg).trans h.roster_eq, h.calls, h.closing_eq⟩, .done⟩

/-- Where no target comes or goes, this is so in every section. -/
theorem Step.steady (hx : b.Step x b') (hK : K.isSteady) : ∀ y ∈ x.toList, y.Steady := by
  cases hx with
  | look | build | fail | seat | refuse =>
    exact fun y hy => List.mem_singleton.mp hy ▸ trivial
  | edit hedits =>
    exact fun y hy => List.mem_singleton.mp hy ▸ K.steady_of_edits hedits hK
  | work | workMain => exact nofun

theorem Step.mirrored (hx : b.Step x b') (h : b.Mirrored heap s) :
    ∃ heap' s', b'.Mirrored heap' s' ∧ Staffing.Run s x.toList s' := by
  obtain ⟨heap', s', hshows, hr⟩ := hx.simulated h
  refine ⟨heap', s', ⟨hshows, hr.accounted h.accounted, fun hK => ?_⟩, hr⟩
  obtain ⟨t, ht⟩ := h.settled hK
  exact ⟨t, hr.settled h.accounted ht (hx.steady hK)⟩

theorem Run.mirrored (hr : b.Run xs b') (h : b.Mirrored heap s) :
    ∃ heap' s', b'.Mirrored heap' s' ∧ Staffing.Run s xs.reduceOption s' := by
  induction hr generalizing heap s with
  | done => exact ⟨heap, s, h, .done⟩
  | @step _ _ _ x xs hx _ ih =>
    obtain ⟨heap₁, s₁, h₁, hr₁⟩ := hx.mirrored h
    obtain ⟨heap', s', h', hr'⟩ := ih h₁
    refine ⟨heap', s', h', ?_⟩
    have hxs : (x :: xs).reduceOption = x.toList ++ xs.reduceOption := by cases x <;> rfl
    exact hxs ▸ hr₁.append hr'

theorem Run.steady (hr : b.Run xs b') (hK : K.isSteady) : ∀ y ∈ xs.reduceOption, y.Steady := by
  induction hr with
  | done => exact nofun
  | step hx _ ih =>
    intro y hy
    obtain hhead | htail := List.mem_cons.mp (List.reduceOption_mem_iff.mp hy)
    · exact hx.steady hK y (Option.mem_toList.mpr hhead.symm)
    · exact ih y (List.reduceOption_mem_iff.mpr htail)

/-- At first the tokens are still to come. -/
theorem Opening.exists_mirror (ho : b.Opening) (heap : Token → Manager) :
    ∃ s : Staffing, s.Opening ∧ b.Mirrored heap s := by
  let u : Topology Token := {
    slots := (K.roster b.provider).slots.mapValues fun _ => none
    hub? := (K.roster b.provider).hub?
    version := (K.roster b.provider).version
    isWatched := (K.roster b.provider).isWatched }
  have hnames : u.names = (K.roster b.provider).names := Fields.keys_mapValues _
  have hslots : (K.roster b.provider).slots = u.slots.mapValues (Option.map heap) := by
    refine ho.sound.sorted.ext ((ho.sound.sorted.mapValues _).mapValues _) fun cluster => ?_
    rw [Fields.get?_mapValues, Fields.get?_mapValues]
    have hv := ho.vacant cluster
    unfold Topology.held? at hv
    cases hg : Fields.get? cluster (K.roster b.provider).slots with
    | none => rfl
    | some slot =>
      rw [hg, Option.join_some] at hv
      rw [hv]
      rfl
  have hopening : Staffing.Opening ⟨u, fun _ => .waiting, [], []⟩ := by
    refine ⟨⟨?_, ?_⟩, fun cluster => ?_, fun i => rfl, rfl, rfl⟩
    · rw [hnames]
      exact ho.sound.ordered
    · rw [hnames]
      exact ho.sound.hub_mem
    · show (Fields.get? cluster (Fields.mapValues (fun _ => none) _)).join = none
      rw [Fields.get?_mapValues]
      cases Fields.get? cluster (K.roster b.provider).slots <;> rfl
  refine ⟨_, hopening, ⟨?_, fun i => ?_, ho.closing_eq⟩, .of_opening hopening,
    fun _ => ⟨u, .of_opening hopening⟩⟩
  · exact congrArg (fun slots => { K.roster b.provider with slots }) hslots
  · rw [ho.waiting]
    exact .waiting

/-! ## Calls -/

variable {i : Nat} {target : String}

@[simp]
theorem calls_turn_self (b : BusyProvider K) (i : Nat) (c : K.Call) :
    (b.turn i c).calls i = c := if_pos rfl

/-- A call that nothing comes between does all that is done for a target. -/
theorem exists_run_of_waiting (hi : b.calls i = .waiting) (target : String) :
    ∃ xs b', xs <+: [.look i target, .build i, .seat i] ∧ b.Run (xs.map some) b' ∧
      b'.calls i = .answered target ((K.seatOf target b.provider).map Prod.fst) ∧
      ∀ seat q, K.seatOf target b.provider = .ok (seat, q) → b'.provider = q := by
  have hlook : b.Step (some (.look i target)) _ := .look hi
  cases hl : K.lookup b.provider target with
  | error e =>
    have hall : K.seatOf target b.provider = .error e := by rw [K.seatOf_eq, hl]; rfl
    rw [hl] at hlook
    rw [hall]
    exact ⟨[_], _, by simp, .step hlook .done, calls_turn_self _ _ _, nofun⟩
  | ok found =>
    obtain ⟨seat, taken⟩ := found
    rw [hl] at hlook
    cases taken with
    | true =>
      have hall : K.seatOf target b.provider = .ok (seat, b.provider) := by
        rw [K.seatOf_eq, hl]
        rfl
      rw [hall]
      refine ⟨[_], _, by simp, .step hlook .done, calls_turn_self _ _ _, fun seat q h => ?_⟩
      cases h
      rfl
    | false =>
      cases hb : K.build b.provider target with
      | error e =>
        have hall : K.seatOf target b.provider = .error e := by
          rw [K.seatOf_eq, hl, hb]
          rfl
        have hfail := Step.fail (calls_turn_self b i (.building target)) hb
        rw [hall]
        exact ⟨[_, _], _, by simp, .step hlook (.step hfail .done), calls_turn_self _ _ _, nofun⟩
      | ok g =>
        have hall : K.seatOf target b.provider = K.seat target g b.provider := by
          rw [K.seatOf_eq, hl, hb]
          rfl
        have hbuild := Step.build (calls_turn_self b i (.building target)) hb
        have hbuilt := calls_turn_self (b.turn i (.building target)) i (.built target g)
        rw [hall]
        cases hs : K.seat target g b.provider with
        | error e =>
          have hrefuse := Step.refuse hbuilt hs
          exact ⟨[_, _, _], _, List.prefix_rfl,
            .step hlook (.step hbuild (.step hrefuse .done)), calls_turn_self _ _ _, nofun⟩
        | ok seated =>
          have hseat := Step.seat hbuilt hs
          refine ⟨[_, _, _], _, List.prefix_rfl,
            .step hlook (.step hbuild (.step hseat .done)), calls_turn_self _ _ _,
            fun seat q h => ?_⟩
          cases h
          rfl

theorem Step.look_of_vacant (hi : b.calls i = .waiting)
    (hslot : (K.roster b.provider).HasSlot target)
    (hvacant : (K.roster b.provider).held? target = none) :
    b.Step (some (.look i target)) (b.turn i (.building target)) := by
  obtain ⟨hne, hhub⟩ := not_or.mp hslot.2
  have hlook : b.Step (some (.look i target)) _ := .look hi
  rwa [K.lookup_eq, Topology.find_of_vacant hne hhub hslot.1 hvacant] at hlook

/-- Two calls build a manager each.  The one that seats its manager last comes to that of the
other. -/
theorem exists_race (ho : b.Opening) (hslot : (K.roster b.provider).HasSlot target) {g : Manager}
    (hg : K.build b.provider target = .ok g) :
    ∃ b', b.Run ([.look 0 target, .look 1 target, .build 0, .build 1, .seat 1, .seat 0].map some)
        b' ∧
      b'.calls 0 = .answered target (.ok (K.other target)) ∧
      b'.calls 1 = .answered target (.ok (K.other target)) ∧
      (K.roster b'.provider).held? target = some g := by
  have hvacant := ho.vacant target
  have hclaim : (K.roster b.provider).claim target g = some (g, _) :=
    Topology.claim_of_empty hslot.1 hvacant
  obtain ⟨q, hseat, hq⟩ := K.seat_eq hclaim
  have hheld : (K.roster q).held? target = some g := by
    rw [hq]
    exact (Topology.held?_of_claim hclaim).1
  have hclaim' : (K.roster q).claim target g = some (g, _) := Topology.claim_of_held hheld
  obtain ⟨q', hseat', hq'⟩ := K.seat_eq hclaim'
  refine ⟨_, .step (.look_of_vacant (ho.waiting 0) hslot hvacant) <|
    .step (.look_of_vacant (show _ = LazyKind.Call.waiting from ?_) hslot hvacant) <|
    .step (.build (show _ = LazyKind.Call.building target from ?_) hg) <|
    .step (.build (show _ = LazyKind.Call.building target from ?_) hg) <|
    .step (.seat (show _ = LazyKind.Call.built target g from ?_) hseat) <|
    .step (.seat (show _ = LazyKind.Call.built target g from ?_) hseat') .done, ?_, ?_, ?_⟩
  all_goals simp [turn, ho.waiting, hq', hheld]

/-! ## What holds throughout -/

/-- A call that has built a manager for a target that is gone by now gets told so. -/
theorem Mirrored.lost (h : b.Mirrored heap s) {g : Manager} (hi : b.calls i = .built target g)
    (hlost : target ∉ s.topology.names) (hx : b.Step (some (.seat i)) b') :
    b' = b.turn i (.answered target (.error (.unknownTarget K.parameter target))) := by
  have hcall := h.calls i
  rw [hi] at hcall
  generalize he : s.errands i = errand at hcall
  cases hcall with
  | built token =>
    obtain ⟨held, t, q, hclaim, -⟩ | ⟨-, hrefused⟩ := h.seat he
    · cases (Topology.claim_of_unknown hlost).symm.trans hclaim
    · cases hx with
      | seat hi' hseat =>
        cases hi.symm.trans hi'
        cases hrefused.symm.trans hseat
      | refuse hi' hseat =>
        cases hi.symm.trans hi'
        cases hrefused.symm.trans hseat
        rfl

/-- A call that comes to a seat comes to the manager of the hub or to that of a token. -/
theorem Mirrored.exists_final (h : b.Mirrored heap s) {seat : K.Seat}
    (hf : b.Final x i target (.ok seat) b') :
    ∃ heap' s' y answer, x = some y ∧ b'.Mirrored heap' s' ∧
      Staffing.Final s y i target answer s' ∧
      (answer = .hub ∧ seat = K.main ∨ ∃ token, answer = .manager token ∧ seat = K.other target) := by
  obtain ⟨heap', s', h', hr⟩ := hf.step.mirrored h
  have herrand : ∃ answer, s'.errands i = .answered target answer ∧
      (answer = .hub ∧ seat = K.main ∨
        ∃ token, answer = .manager token ∧ seat = K.other target) := by
    have hcall := h'.calls i
    rw [hf.after] at hcall
    generalize s'.errands i = errand at hcall
    cases hcall with
    | hub => exact ⟨.hub, rfl, Or.inl ⟨rfl, rfl⟩⟩
    | manager _ token => exact ⟨.manager token, rfl, Or.inr ⟨token, rfl, rfl⟩⟩
  have hbefore : ∀ other answer, s.errands i ≠ .answered other answer := by
    have hcall := h.calls i
    have hunanswered := hf.before
    generalize b.calls i = c at hcall hunanswered
    generalize s.errands i = errand at hcall
    cases hcall with
    | waiting | building | built => exact nofun
    | hub | manager | unknown | unbuilt => exact absurd rfl (hunanswered _ _)
  obtain ⟨answer, hafter, hanswer⟩ := herrand
  cases x with
  | none =>
    cases hr
    exact absurd hafter (hbefore _ _)
  | some y =>
    cases hr with
    | step hy hdone =>
      cases hdone
      exact ⟨heap', s', y, answer, rfl, h', ⟨hy, hbefore, hafter⟩, hanswer⟩

/-- Two calls come to the same manager of a target if its slot is not emptied in between. -/
theorem Mirrored.agree (h : b.Mirrored heap s) {b₁ b₂ b₃ : BusyProvider K}
    {x y : Option Section} {i j : Nat} (hf : b.Final x i target (.ok (K.other target)) b₁)
    (hr : b₁.Run xs b₂) (hxs : ∀ z ∈ xs.reduceOption, ¬ z.Vacates target)
    (hf' : b₂.Final y j target (.ok (K.other target)) b₃) :
    ∃ heap₁ s₁ heap₃ s₃ token, b₁.Mirrored heap₁ s₁ ∧ b₃.Mirrored heap₃ s₃ ∧
      Staffing.Run s₁ (xs.reduceOption ++ y.toList) s₃ ∧
      s₁.errands i = .answered target (.manager token) ∧
      s₃.errands j = .answered target (.manager token) := by
  have hne := K.other_ne_main target
  obtain ⟨heap₁, s₁, _, _, rfl, h₁, hs, ⟨-, he⟩ | ⟨token, rfl, -⟩⟩ := h.exists_final hf
  · exact absurd he hne
  obtain ⟨heap₂, s₂, h₂, hrun⟩ := hr.mirrored h₁
  obtain ⟨heap₃, s₃, _, _, rfl, h₃, hs', ⟨-, he⟩ | ⟨token', rfl, -⟩⟩ := h₂.exists_final hf'
  · exact absurd he hne
  have htoken : token = token' := hs.agree hrun hs' hxs
  subst htoken
  exact ⟨heap₁, s₁, heap₃, s₃, token, h₁, h₃, hrun.append (.step hs'.step .done), hs.after,
    hs'.after⟩

/-- What is known of a provider by a staffing. -/
structure Kept (heap : Token → Manager) (b : BusyProvider K) (s : Staffing) : Prop
    extends Mirrored heap b s where
  orderly : s.Orderly
  managerAt {target : String} {token : Token} : s.topology.held? target = some token →
    K.managerAt b.provider (K.other target) = heap token
  lost {i : Nat} {target : String} {g : Manager} {b' : BusyProvider K} :
    b.calls i = .built target g → target ∉ s.topology.names → b.Step (some (.seat i)) b' →
    b' = b.turn i (.answered target (.error (.unknownTarget K.parameter target)))
  /-- Two calls come to the same manager of a target if its slot is not emptied in between. -/
  agree {b₁ b₂ b₃ : BusyProvider K} {x y : Option Section} {xs : List (Option Section)}
    {i j : Nat} {target : String} : b.Final x i target (.ok (K.other target)) b₁ →
    b₁.Run xs b₂ → (∀ z ∈ xs.reduceOption, ¬ z.Vacates target) →
    b₂.Final y j target (.ok (K.other target)) b₃ →
    ∃ heap₁ s₁ heap₃ s₃ token, b₁.Mirrored heap₁ s₁ ∧ b₃.Mirrored heap₃ s₃ ∧
      Staffing.Run s₁ (xs.reduceOption ++ y.toList) s₃ ∧
      s₁.errands i = .answered target (.manager token) ∧
      s₃.errands j = .answered target (.manager token)
  /-- Whatever the provider does next is done to the staffing. -/
  run {xs : List (Option Section)} {b' : BusyProvider K} : b.Run xs b' →
    ∃ heap' s', b'.Mirrored heap' s' ∧ Staffing.Run s xs.reduceOption s'
  /-- A call that nothing comes between does all that is done for a target. -/
  alone {i : Nat} : b.calls i = .waiting → ∀ target, ∃ xs b',
    xs <+: [.look i target, .build i, .seat i] ∧ b.Run (xs.map some) b' ∧
      b'.calls i = .answered target ((K.seatOf target b.provider).map Prod.fst) ∧
      ∀ seat q, K.seatOf target b.provider = .ok (seat, q) → b'.provider = q

theorem Mirrored.kept (h : b.Mirrored heap s) : b.Kept heap s where
  toMirrored := h
  orderly := h.accounted.orderly
  managerAt hheld := K.managerAt_eq (by rw [h.roster_eq, Topology.held?_map, hheld]; rfl)
  lost := h.lost
  agree := h.agree
  run hr := hr.mirrored h
  alone hi := exists_run_of_waiting hi

theorem Opening.kept (ho : b.Opening) (hr : b.Run xs b') :
    ∃ heap s₀ s, s₀.Opening ∧ Staffing.Run s₀ xs.reduceOption s ∧ b'.Kept heap s := by
  obtain ⟨s₀, hs₀, hmirrored⟩ := ho.exists_mirror fun _ => default
  obtain ⟨heap, s, h, hrun⟩ := hr.mirrored hmirrored
  exact ⟨heap, s₀, s, hs₀, hrun, h.kept⟩

/-- Two calls for the same target that come to a seat come to the same one, if the slot of the
target is not emptied in between. -/
def CallsAgree (K : LazyKind) : Prop :=
  ∀ {b₀ b b₁ b₂ b₃ : BusyProvider K} {ws ys : List (Option Section)} {x y : Option Section}
    {i j : Nat} {target : String} {seat seat' : K.Seat}, b₀.Opening → b₀.Run ws b →
    b.Final x i target (.ok seat) b₁ → b₁.Run ys b₂ →
    (∀ z ∈ ys.reduceOption, ¬ z.Vacates target) → b₂.Final y j target (.ok seat') b₃ →
    seat = seat'

theorem callsAgree_of_steady (hK : K.isSteady) : CallsAgree K := by
  intro b₀ b b₁ b₂ b₃ ws ys x y i j target seat seat' ho hws hf hys hkept hf'
  obtain ⟨s₀, -, h₀⟩ := ho.exists_mirror fun _ => default
  obtain ⟨heap, s, h, -⟩ := hws.mirrored h₀
  obtain ⟨t, ht⟩ := h.settled hK
  obtain ⟨heap₁, s₁, _, a, rfl, h₁, hs, ha⟩ := h.exists_final hf
  obtain ⟨heap₂, s₂, h₂, hrun⟩ := hys.mirrored h₁
  obtain ⟨heap₃, s₃, _, a', rfl, h₃, hs', ha'⟩ := h₂.exists_final hf'
  have hagree := fun hm hm' => ht.agree h.accounted hs hrun (hys.steady hK) hkept hs' hm hm'
  rcases ha with ⟨rfl, rfl⟩ | ⟨token, rfl, rfl⟩ <;>
    rcases ha' with ⟨rfl, rfl⟩ | ⟨token', rfl, rfl⟩
  · rfl
  · cases hagree trivial trivial
  · cases hagree trivial trivial
  · rfl

/-- The provider of a hub has made no manager when it has listed its clusters once. -/
theorem opening_of_listed {p : HubProvider} {list : ApiList}
    (h : p.membership = (({} : Membership Manager).relist list).2) :
    Opening (K := HubProvider.lazyKind) (idle p) := by
  have ht : p.topology = (Topology.replace list.items (list.version?.getD "") {}).2.2 := by
    rw [HubProvider.topology, h]
    rfl
  refine ⟨?_, fun cluster => ?_, fun _ => rfl, rfl⟩
  · show p.topology.Sound
    rw [ht]
    exact .replace _ _ _
  · show p.topology.held? cluster = none
    rw [ht]
    refine Option.eq_none_iff_forall_ne_some.mpr fun g hg => ?_
    cases Topology.held?_of_replace hg

/-- Nor has the provider of a kubeconfig when it was created. -/
theorem opening_of_create {env : Environment} {settings : Config.Settings}
    {validators : List ValidatorKind} {p : ContextProvider}
    (h : ContextProvider.create env settings validators = .ok p) :
    Opening (K := ContextProvider.lazyKind) (idle p) := by
  have hothers : p.others = [] := by
    unfold ContextProvider.create at h
    dsimp only at h
    split at h
    · cases h
    · obtain ⟨k, -, h⟩ := exists_of_bind_eq_ok h
      obtain ⟨g, -, h⟩ := exists_of_bind_eq_ok h
      cases h
      rfl
  refine ⟨⟨?_, fun context hc => ?_⟩, fun context => ?_, fun _ => rfl, rfl⟩
  · show p.roster.names.Pairwise (· < ·)
    rw [p.names_roster]
    exact p.targets_sorted
  · cases hc
    show _ ∈ p.roster.names
    rw [p.names_roster]
    exact (ContextProvider.Sound.of_create h).default_mem
  · show p.roster.held? context = none
    rw [p.held?_roster, hothers]
    split <;> rfl

/-- The cluster of a hub without itself has a slot, and a manager can be built for it. -/
theorem exists_build_alpha :
    Opening (K := HubProvider.lazyKind) (idle strayProvider) ∧
      strayProvider.topology.HasSlot "alpha" ∧ ∃ g, strayProvider.build "alpha" = .ok g := by
  have hlisted : strayProvider.membership =
      (({} : Membership Manager).relist ⟨some "2", [otherCluster]⟩).2 := rfl
  refine ⟨opening_of_listed hlisted, ⟨by decide, by decide⟩, ?_⟩
  have hbuilt : (strayProvider.build "alpha").isOk = true := by decide +kernel
  cases hg : strayProvider.build "alpha" with
  | error e => simp [hg, Except.isOk, Except.toBool] at hbuilt
  | ok g => exact ⟨g, rfl⟩

/-- Whatever calls for targets and changes of them come between each other, managers are unique
and accounted for.  This is so at a hub and at a kubeconfig.  At a kubeconfig no target comes or
goes, so that calls for the same one always agree. -/
theorem managers_are_unique_and_accounted_for :
    (∀ {p : HubProvider} {list : ApiList} {xs : List (Option Section)}
      {b : BusyProvider HubProvider.lazyKind},
      p.membership = (({} : Membership Manager).relist list).2 → (idle p).Run xs b →
      ∃ heap s₀ s, s₀.Opening ∧ Staffing.Run s₀ xs.reduceOption s ∧ b.Kept heap s) ∧
    (∀ {env : Environment} {settings : Config.Settings} {validators : List ValidatorKind}
      {p : ContextProvider} {xs : List (Option Section)}
      {b : BusyProvider ContextProvider.lazyKind},
      ContextProvider.create env settings validators = .ok p → (idle p).Run xs b →
      ∃ heap s₀ s, s₀.Opening ∧ Staffing.Run s₀ xs.reduceOption s ∧ b.Kept heap s) ∧
    CallsAgree ContextProvider.lazyKind :=
  ⟨fun hp hr => (opening_of_listed hp).kept hr, fun hp hr => (opening_of_create hp).kept hr,
    callsAgree_of_steady trivial⟩

/-- Of two managers for one cluster only one is seated, and both calls come to its seat. -/
theorem racing_calls_share_a_manager :
    ∃ (b : BusyProvider HubProvider.lazyKind) (heap : Token → Manager) (s : Staffing)
      (token : Token),
      (idle strayProvider).Run ([.look 0 "alpha", .look 1 "alpha", .build 0, .build 1, .seat 1,
        .seat 0].map some) b ∧
      b.calls 0 = .answered "alpha" (.ok (.spoke "alpha")) ∧
      b.calls 1 = .answered "alpha" (.ok (.spoke "alpha")) ∧
      b.Kept heap s ∧ s.topology.held? "alpha" = some token ∧ s.Seated token := by
  have hlisted : strayProvider.membership =
      (({} : Membership Manager).relist ⟨some "2", [otherCluster]⟩).2 := rfl
  obtain ⟨hopening, hslot, g, hg⟩ := exists_build_alpha
  obtain ⟨b, hr, hfirst, hsecond, hheld⟩ := exists_race hopening hslot hg
  obtain ⟨heap, s₀, s, -, -, hkept⟩ := managers_are_unique_and_accounted_for.1 hlisted hr
  rw [hkept.roster_eq, Topology.held?_map] at hheld
  obtain ⟨token, htoken, -⟩ := Option.map_eq_some_iff.mp hheld
  exact ⟨b, heap, s, token, hr, hfirst, hsecond, hkept, htoken, hkept.orderly.seated htoken⟩

theorem Final.look_of_hub (hi : b.calls i = .waiting)
    (hhub : target = "" ∨ (K.roster b.provider).hub? = some target) :
    b.Final (some (.look i target)) i target (.ok K.main)
      (b.turn i (.answered target (.ok K.main))) := by
  refine ⟨?_, by simp [hi], calls_turn_self _ _ _⟩
  have hlook : b.Step (some (.look i target)) _ := .look hi
  rwa [K.lookup_eq, Topology.find_of_hub hhub] at hlook

theorem exists_seated (ho : b.Opening) (hslot : (K.roster b.provider).HasSlot target)
    {g : Manager} (hg : K.build b.provider target = .ok g) :
    ∃ b₁ b₂, b.Run [some (.look 0 target), some (.build 0)] b₁ ∧
      b₁.Final (some (.seat 0)) 0 target (.ok (K.other target)) b₂ ∧ b₂.calls 1 = .waiting := by
  have hvacant := ho.vacant target
  have hclaim : (K.roster b.provider).claim target g = some (g, _) :=
    Topology.claim_of_empty hslot.1 hvacant
  obtain ⟨q, hseat, -⟩ := K.seat_eq hclaim
  refine ⟨_, _, .step (.look_of_vacant (ho.waiting 0) hslot hvacant) <|
    .step (.build (calls_turn_self _ _ _) hg) .done,
    ⟨.seat (calls_turn_self _ _ _) hseat, ?_, ?_⟩, ?_⟩
  all_goals simp [turn, ho.waiting]

/-- A call comes to the manager of a cluster, then the cluster becomes the hub, and the next call
comes to the manager of the hub. -/
theorem not_callsAgree_of_local {b : BusyProvider HubProvider.lazyKind} {g : Manager}
    {o : ApiObject} (ho : b.Opening) (hslot : b.provider.topology.HasSlot target)
    (hg : b.provider.build target = .ok g) (hlocal : o.localName? = some target) :
    ¬ CallsAgree HubProvider.lazyKind := by
  intro hagree
  obtain ⟨b₁, b₂, hr, hfirst, hwaiting⟩ := exists_seated ho hslot hg
  have hedit : HubProvider.Edits (.upsert o) b₂.provider [] { b₂.provider with
      membership := ⟨(b₂.provider.topology.upsert o).2, b₂.provider.membership.backoff.reset⟩ } :=
    .delivered (show b₂.provider.membership.deliver (.event (.modified o)) = _ from rfl) rfl
  have hhub : (b₂.provider.topology.upsert o).2.hub? = some target := by
    rw [Topology.hub?_upsert, hlocal, Option.some_or]
  have hseats := hagree ho hr hfirst (.step (.edit hedit) .done) ?_
    (.look_of_hub hwaiting (Or.inr hhub))
  · cases hseats
  · exact fun z hz => List.mem_singleton.mp hz ▸ id

/-- At a hub two calls for the same cluster can come to different managers, though it never went
away. -/
theorem not_callsAgree_of_new_hub : ¬ CallsAgree HubProvider.lazyKind := by
  obtain ⟨hopening, hslot, g, hg⟩ := exists_build_alpha
  have hlocal : (⟨some "alpha", [(localLabel, "true")], none, .null⟩ : ApiObject).localName? =
    some "alpha" := by decide
  exact not_callsAgree_of_local hopening hslot hg hlocal

end BusyProvider

end FleetGate
