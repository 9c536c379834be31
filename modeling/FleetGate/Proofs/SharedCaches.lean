import FleetGate.Proofs.Followers

/-!
# Caches that calls share

Calls look for a value in a cache, and fetch it if none there is fresh.  Many calls may be under
way at the same time.  `Sharing.Section` has one rule for each section of a call that does
not let go of the lock, so that nothing is said about their order.

* A call looks twice, before and after it waits for the lock of those who fetch.  Nobody looks
  while a value is fetched.
* If it finds nothing and there is somebody to ask, it fetches and keeps the lock.  A fetch that
  succeeds is kept with the time at which it was over.  One that fails leaves what is kept.
* A call may be dropped at any time, and what is kept may be forgotten.

So there is at most one fetch at a time (`Sound.eq_of_fetching`), and what calls find is what was
fetched last, if it was not forgotten and is not too old (`Run.held`).  `Sharing.Orderly` says what
follows for each section of a run.

`CacheKind` says what is kept and for how long.
-/

namespace FleetGate

/-- What was taken at one time may be used at another, for a span of time or for ever. -/
def Lasts (lifetime? : Option Nat) (taken now : Nat) : Prop :=
  ∀ span, lifetime? = some span → now - taken < span

/-- What lasts up to some time lasts up to an earlier one, the more so if it was taken later. -/
theorem Lasts.between {lifetime? : Option Nat} {taken later now earlier : Nat}
    (h : Lasts lifetime? taken now) (htaken : taken ≤ later) (hnow : earlier ≤ now) :
    Lasts lifetime? later earlier := by
  intro span hspan
  have hlasts := h span hspan
  omega

/-- A kind of caches. -/
structure CacheKind where
  /-- What calls are about. -/
  Query : Type
  Value : Type
  /-- What is kept from one call to another. -/
  Kept : Type
  /-- How long a value may be used, if not for ever. -/
  lifetime? : Option Nat
  /-- A value is needed to answer. -/
  needs : Query → Bool
  /-- What is kept may be forgotten before its time. -/
  forgets : Bool
  empty : Kept
  fresh? : Nat → Kept → Option Value
  store : Nat → Value → Kept → Kept
  fresh?_empty (now : Nat) : fresh? now empty = none
  fresh?_store {now taken : Nat} {value found : Value} {kept : Kept} :
    fresh? now (store taken value kept) = some found ↔
      found = value ∧ Lasts lifetime? taken now
  fresh?_later {now later : Nat} {kept : Kept} :
    fresh? now kept = none → now ≤ later → fresh? later kept = none

/-- What a call comes to. -/
inductive Outcome (α : Type) where
  /-- No value is needed. -/
  | spared
  | found (value : α)
  /-- There is nobody to ask. -/
  | unbound
  /-- A fetch has failed. -/
  | failed (cause : CallError)
  /-- Nobody waits for an answer any more. -/
  | dropped
deriving DecidableEq, Repr

namespace Sharing

variable {K : CacheKind}

/-- Where a call stands. -/
inductive Phase (K : CacheKind) where
  | waiting
  | begun (query : K.Query)
  /-- The first look has found nothing. -/
  | missed (query : K.Query)
  /-- It has the lock. -/
  | fetching (query : K.Query)
  | done (query : K.Query) (outcome : Outcome K.Value)

/-- A call has begun and is not over. -/
inductive Phase.Open : Phase K → K.Query → Prop where
  | begun (query : K.Query) : Open (.begun query) query
  | missed (query : K.Query) : Open (.missed query) query
  | fetching (query : K.Query) : Open (.fetching query) query

/-- A call looks for a value. -/
inductive Phase.Looks : Phase K → K.Query → Prop where
  | first {query : K.Query} : K.needs query = true → Looks (.begun query) query
  | second (query : K.Query) : Looks (.missed query) query

/-- What is done in one section. -/
inductive Act (K : CacheKind) where
  | begin (i : Nat) (query : K.Query)
  | spare (i : Nat)
  /-- A look finds a value. -/
  | hit (i : Nat) (value : K.Value)
  | miss (i : Nat)
  /-- The second look finds nothing, and there is nobody to ask. -/
  | unbound (i : Nat)
  /-- The second look finds nothing, and a fetch begins. -/
  | ask (i : Nat)
  | fetched (i : Nat) (value : K.Value)
  | failed (i : Nat) (cause : CallError)
  | drop (i : Nat)
  | reset
  /-- From now on there is somebody to ask. -/
  | bind

/-- The call that does it. -/
def Act.call? : Act K → Option Nat
  | .begin i _ | .spare i | .hit i _ | .miss i | .unbound i | .ask i | .fetched i _ | .failed i _
  | .drop i => some i
  | .reset | .bind => none

/-- A call comes to an end. -/
inductive Act.Ends : Act K → Nat → Outcome K.Value → Prop where
  | spare (i : Nat) : Ends (.spare i) i .spared
  | hit (i : Nat) (value : K.Value) : Ends (.hit i value) i (.found value)
  | unbound (i : Nat) : Ends (.unbound i) i .unbound
  | fetched (i : Nat) (value : K.Value) : Ends (.fetched i value) i (.found value)
  | failed (i : Nat) (cause : CallError) : Ends (.failed i cause) i (.failed cause)
  | drop (i : Nat) : Ends (.drop i) i .dropped

/-- What is kept changes. -/
inductive Act.Changes : Act K → Prop where
  | fetched (i : Nat) (value : K.Value) : Changes (.fetched i value)
  | reset : Changes .reset

/-- A section and its time. -/
structure Event (K : CacheKind) where
  time : Nat
  act : Act K

/-- A value was fetched at a time, and nothing has changed what is kept since. -/
def Taken (es : List (Event K)) (taken : Nat) (value : K.Value) : Prop :=
  ∃ before i after, es = before ++ ⟨taken, .fetched i value⟩ :: after ∧
    ∀ e ∈ after, ¬ e.act.Changes

end Sharing

open Sharing (Phase Act Event Taken)

/-- A cache and the calls that share it. -/
structure Sharing (K : CacheKind) where
  kept : K.Kept
  /-- There is somebody to ask. -/
  bound : Bool
  /-- The call that has the lock. -/
  holder : Option Nat
  calls : Nat → Phase K
  time : Nat

namespace Sharing

variable {K : CacheKind}

/-- Nothing is kept, and no call has begun. -/
def idle (K : CacheKind) (bound : Bool) (time : Nat) : Sharing K :=
  ⟨K.empty, bound, none, fun _ => .waiting, time⟩

def call (s : Sharing K) (i : Nat) (p : Phase K) : Sharing K :=
  { s with calls := Function.update s.calls i p }

/-- What one call does changes no other. -/
@[simp, grind =]
theorem calls_call (s : Sharing K) (i j : Nat) (p : Phase K) :
    (s.call i p).calls j = if j = i then p else s.calls j :=
  Function.update_apply s.calls i p j

@[simp, grind =]
theorem holder_call (s : Sharing K) (i : Nat) (p : Phase K) : (s.call i p).holder = s.holder := rfl

/-- What each section comes to. -/
inductive Section : Sharing K → Act K → Sharing K → Prop where
  | begin {s : Sharing K} {i : Nat} (q : K.Query) : s.calls i = .waiting →
      Section s (.begin i q) (s.call i (.begun q))
  | spare {s : Sharing K} {i : Nat} {q : K.Query} : s.calls i = .begun q → K.needs q = false →
      Section s (.spare i) (s.call i (.done q .spared))
  | hit {s : Sharing K} {i : Nat} {q : K.Query} {value : K.Value} : (s.calls i).Looks q →
      s.holder = none → K.fresh? s.time s.kept = some value →
      Section s (.hit i value) (s.call i (.done q (.found value)))
  | miss {s : Sharing K} {i : Nat} {q : K.Query} : s.calls i = .begun q → K.needs q = true →
      s.holder = none → K.fresh? s.time s.kept = none → Section s (.miss i) (s.call i (.missed q))
  | unbound {s : Sharing K} {i : Nat} {q : K.Query} : s.calls i = .missed q → s.holder = none →
      K.fresh? s.time s.kept = none → s.bound = false →
      Section s (.unbound i) (s.call i (.done q .unbound))
  | ask {s : Sharing K} {i : Nat} {q : K.Query} : s.calls i = .missed q → s.holder = none →
      K.fresh? s.time s.kept = none → s.bound = true →
      Section s (.ask i) { s.call i (.fetching q) with holder := some i }
  | fetched {s : Sharing K} {i : Nat} {q : K.Query} (value : K.Value) :
      s.calls i = .fetching q → Section s (.fetched i value)
        { s.call i (.done q (.found value)) with
          kept := K.store s.time value s.kept, holder := none }
  | failed {s : Sharing K} {i : Nat} {q : K.Query} (cause : CallError) :
      s.calls i = .fetching q →
      Section s (.failed i cause) { s.call i (.done q (.failed cause)) with holder := none }
  | drop {s : Sharing K} {i : Nat} {q : K.Query} : (s.calls i).Open q → Section s (.drop i)
      { s.call i (.done q .dropped) with holder := s.holder.filter (· != i) }
  | reset {s : Sharing K} : K.forgets = true → s.holder = none →
      Section s .reset { s with kept := K.empty }
  | bind (s : Sharing K) : Section s .bind { s with bound := true }

/-- A section is done at its time, and the time does not go back. -/
inductive Step : Sharing K → Event K → Sharing K → Prop where
  | mk {s s' : Sharing K} {time : Nat} {a : Act K} : s.time ≤ time →
      Section { s with time } a s' → Step s ⟨time, a⟩ s'

/-- One section after the other. -/
abbrev Run : Sharing K → List (Event K) → Sharing K → Prop := Steps Step

variable {s s' u : Sharing K} {a : Act K} {e : Event K} {es fs : List (Event K)} {i j : Nat}
  {q : K.Query} {value : K.Value} {taken now : Nat}

/-! ## What a section does -/

theorem Section.time_eq (h : s.Section a s') : s'.time = s.time := by
  cases h <;> rfl

theorem Step.time_eq (h : s.Step e s') : s'.time = e.time := by
  cases h with
  | mk _ h => exact h.time_eq

theorem Step.time_le (h : s.Step e s') : s.time ≤ s'.time := by
  cases h with
  | mk ht h => exact ht.trans_eq h.time_eq.symm

/-- Only a fetch that succeeds and a reset change what is kept. -/
theorem Step.kept_eq (h : s.Step e s') (ha : ¬ e.act.Changes) : s'.kept = s.kept := by
  cases h with
  | mk _ h =>
    cases h with
    | fetched => exact absurd (.fetched ..) ha
    | reset => exact absurd .reset ha
    | _ => rfl

/-- A call that is over has ended in its last section. -/
theorem Section.ends {outcome : Outcome K.Value} (h : s.Section a s')
    (hi : s'.calls i = .done q outcome) : s.calls i = .done q outcome ∨ a.Ends i outcome := by
  cases h with
  | reset | bind => exact Or.inl hi
  | _ => grind [Act.Ends]

theorem Step.ends {outcome : Outcome K.Value} (h : s.Step e s')
    (hi : s'.calls i = .done q outcome) : s.calls i = .done q outcome ∨ e.act.Ends i outcome := by
  cases h with
  | mk _ h => exact h.ends hi

/-! ## The lock -/

/-- Who has the lock. -/
structure Sound (s : Sharing K) : Prop where
  /-- A call that fetches has the lock. -/
  holder_eq {i : Nat} {q : K.Query} : s.calls i = .fetching q → s.holder = some i
  fetching {i : Nat} : s.holder = some i → ∃ q, s.calls i = .fetching q
  needs {i : Nat} {q : K.Query} : s.calls i = .missed q ∨ s.calls i = .fetching q →
    K.needs q = true
  /-- As long as a call has it, nothing that is kept is fresh. -/
  stale : s.holder ≠ none → K.fresh? s.time s.kept = none

theorem sound_idle (bound : Bool) (time : Nat) : (idle K bound time).Sound where
  holder_eq h := nomatch h
  fetching h := nomatch h
  needs h := h.elim nofun nofun
  stale h := absurd rfl h

/-- At most one fetch is under way. -/
theorem Sound.eq_of_fetching {q q' : K.Query} (hs : s.Sound) (hi : s.calls i = .fetching q)
    (hj : s.calls j = .fetching q') : i = j :=
  Option.some.inj ((hs.holder_eq hi).symm.trans (hs.holder_eq hj))

theorem Sound.later (hs : s.Sound) {time : Nat} (ht : s.time ≤ time) :
    Sound { s with time } where
  holder_eq := hs.holder_eq
  fetching := hs.fetching
  needs := hs.needs
  stale h := K.fresh?_later (hs.stale h) ht

/-- Where a call stands after a section of its own. -/
theorem Section.needs (h : s.Section a s') (hs : s.Sound)
    (hi : s'.calls i = .missed q ∨ s'.calls i = .fetching q) : K.needs q = true := by
  have hold := hs.needs (i := i) (q := q)
  cases h with
  | reset | bind => exact hold hi
  | @ask j q' hj =>
    have hmissed := hs.needs (Or.inl hj)
    grind
  | _ => grind

/-- A call that fetches holds the lock. -/
theorem Section.holder_eq (h : s.Section a s') (hs : s.Sound) (hi : s'.calls i = .fetching q) :
    s'.holder = some i := by
  have hold := hs.holder_eq (i := i) (q := q)
  cases h with
  | reset | bind => exact hold hi
  | fetched _ hj | failed _ hj =>
    have hlock := hs.holder_eq hj
    grind
  | _ => grind

/-- And whoever holds the lock fetches. -/
theorem Section.fetching (h : s.Section a s') (hs : s.Sound) (hi : s'.holder = some i) :
    ∃ q, s'.calls i = .fetching q := by
  cases h with
  | reset | bind => exact hs.fetching hi
  | fetched | failed => cases hi
  | @ask _ q =>
    cases hi
    exact ⟨q, by grind⟩
  | drop ho =>
    obtain ⟨hlock, hne⟩ := Option.filter_eq_some_iff.mp hi
    obtain ⟨q', hq⟩ := hs.fetching hlock
    exact ⟨q', by grind⟩
  | begin _ hj | spare hj | miss hj | unbound hj =>
    obtain ⟨q', hq⟩ := hs.fetching hi
    exact ⟨q', by grind⟩
  | hit hj =>
    obtain ⟨q', hq⟩ := hs.fetching hi
    exact ⟨q', by grind⟩

/-- While the lock is held nothing that is kept is fresh. -/
theorem Section.stale (h : s.Section a s') (hs : s.Sound) (hlock : s'.holder ≠ none) :
    K.fresh? s'.time s'.kept = none := by
  cases h with
  | begin | spare | hit | miss | unbound | bind => exact hs.stale hlock
  | ask _ _ hnone => exact hnone
  | fetched | failed => exact absurd rfl hlock
  | reset _ hfree => exact absurd hfree hlock
  | drop =>
    refine hs.stale fun hfree => hlock ?_
    rw [hfree]
    rfl

/-- Each section keeps the lock in order. -/
theorem Step.sound (h : s.Step e s') (hs : s.Sound) : s'.Sound := by
  cases h with
  | mk ht h =>
    have hnow := hs.later ht
    exact ⟨h.holder_eq hnow, h.fetching hnow, h.needs hnow, h.stale hnow⟩

theorem Run.sound (h : s.Run es s') (hs : s.Sound) : s'.Sound := by
  induction h with
  | done => exact hs
  | step hx _ ih => exact ih (hx.sound hs)

/-! ## What is kept -/

theorem Taken.concat (h : Taken es taken value) (he : ¬ e.act.Changes) :
    Taken (es ++ [e]) taken value := by
  obtain ⟨before, j, after, rfl, hafter⟩ := h
  refine ⟨before, j, after ++ [e], by simp, fun x hx => ?_⟩
  rcases List.mem_append.mp hx with hx | hx
  · exact hafter x hx
  · rwa [List.mem_singleton.mp hx]

theorem taken_concat (es : List (Event K)) (time i : Nat) (value : K.Value) :
    Taken (es ++ [⟨time, .fetched i value⟩]) time value :=
  ⟨es, i, [], rfl, nofun⟩

/-- What was fetched last was fetched after the last reset. -/
theorem Taken.mem_of_reset {before after : List (Event K)} {time : Nat}
    (h : Taken (before ++ ⟨time, .reset⟩ :: after) taken value) :
    ∃ i, ⟨taken, .fetched i value⟩ ∈ after := by
  obtain ⟨before', i, after', hes, hafter⟩ := h
  refine ⟨i, ?_⟩
  rcases List.append_eq_append_iff.mp hes with ⟨mid, rfl, hrest⟩ | ⟨mid, rfl, hrest⟩
  · cases mid with
    | nil => cases hrest
    | cons x mid =>
      rw [List.cons_append] at hrest
      obtain ⟨-, rfl⟩ := List.cons.inj hrest
      simp
  · cases mid with
    | nil => cases hrest
    | cons x mid =>
      obtain ⟨rfl, rfl⟩ := List.cons.inj hrest
      exact absurd .reset (hafter ⟨time, .reset⟩ (by simp))

/-- What calls find in a cache is what was fetched last and lasts. -/
theorem Run.held {bound : Bool} {start : Nat} (h : (idle K bound start).Run es s)
    (hfound : K.fresh? now s.kept = some value) :
    ∃ taken, Taken es taken value ∧ Lasts K.lifetime? taken now := by
  induction h using Steps.concat_induction with
  | done => cases (K.fresh?_empty now).symm.trans hfound
  | @step es s e s' _ hx ih =>
    by_cases hchanges : e.act.Changes
    · cases hx with
      | mk _ hx =>
        cases hx with
        | fetched value' _ =>
          obtain ⟨rfl, hlasts⟩ := K.fresh?_store.mp hfound
          exact ⟨_, taken_concat .., hlasts⟩
        | reset => cases (K.fresh?_empty now).symm.trans hfound
        | _ => cases hchanges
    · rw [hx.kept_eq hchanges] at hfound
      obtain ⟨taken, htaken, hlasts⟩ := ih hfound
      exact ⟨taken, htaken.concat hchanges, hlasts⟩

/-- Without a reset, what is kept is as young as what was fetched before, or younger. -/
theorem Run.kept_of_fetched (h : s.Run es u) {kept : K.Kept}
    (hkept : s.kept = K.store taken value kept) (htaken : taken ≤ s.time)
    (hes : ∀ e ∈ es, e.act ≠ .reset) :
    ∃ later value' kept', u.kept = K.store later value' kept' ∧ taken ≤ later := by
  induction h generalizing taken value kept with
  | done => exact ⟨taken, value, kept, hkept, le_rfl⟩
  | @step s s' u e es hx _ ih =>
    obtain ⟨hhead, htail⟩ := List.forall_mem_cons.mp hes
    have htime := hx.time_le
    by_cases hchanges : e.act.Changes
    · cases hx with
      | mk hle hx =>
        cases hx with
        | fetched value' _ =>
          obtain ⟨later, value'', kept', hu, hlater⟩ := ih rfl le_rfl htail
          exact ⟨later, value'', kept', hu, (htaken.trans hle).trans hlater⟩
        | reset => exact absurd rfl hhead
        | _ => cases hchanges
    · exact ih ((hx.kept_eq hchanges).trans hkept) (htaken.trans htime) htail

/-- While a value is fetched, none that was fetched before lasts. -/
theorem Run.not_lasts_of_locked {bound : Bool} {start : Nat} {before after : List (Event K)}
    (h : (idle K bound start).Run (before ++ ⟨taken, .fetched j value⟩ :: after) s)
    (hafter : ∀ x ∈ after, x.act ≠ .reset) (hlock : s.holder ≠ none) :
    ¬ Lasts K.lifetime? taken s.time := by
  intro hlasts
  have hnone := (Run.sound h (sound_idle bound start)).stale hlock
  obtain ⟨b, -, hrest⟩ := h.split
  cases hrest with
  | step hfetched hrest =>
    cases hfetched with
    | mk _ hfetched =>
      cases hfetched with
      | fetched =>
        obtain ⟨later, found, kept, hkept, hlater⟩ := Run.kept_of_fetched hrest rfl le_rfl hafter
        rw [hkept] at hnone
        have hfresh : K.fresh? s.time (K.store later found kept) = some found :=
          K.fresh?_store.mpr ⟨rfl, hlasts.between hlater le_rfl⟩
        cases hnone.symm.trans hfresh

/-! ## Looking and asking -/

theorem Step.fresh_of_hit (h : s.Step ⟨now, .hit i value⟩ s') :
    K.fresh? now s.kept = some value := by
  cases h with
  | mk _ h =>
    cases h with
    | hit _ _ hfresh => exact hfresh

/-- Whoever asks has looked before and found nothing fresh. -/
theorem Step.stale_of_ask (h : s.Step ⟨now, .ask i⟩ s') :
    ∃ q, s.calls i = .missed q ∧ s.bound = true ∧ K.fresh? now s.kept = none := by
  cases h with
  | mk _ h =>
    cases h with
    | ask hi _ hnone hbound => exact ⟨_, hi, hbound, hnone⟩

theorem Step.fetching_of_fetched (h : s.Step ⟨now, .fetched i value⟩ s') :
    ∃ q, s.calls i = .fetching q := by
  cases h with
  | mk _ h =>
    cases h with
    | fetched _ hi => exact ⟨_, hi⟩

/-- If nothing that is kept is fresh, nothing is until a fetch succeeds. -/
theorem Step.stale (h : s.Step e s') (hs : K.fresh? s.time s.kept = none)
    (he : ∀ i value, e.act ≠ .fetched i value) : K.fresh? s'.time s'.kept = none := by
  by_cases hchanges : e.act.Changes
  · cases h with
    | mk _ h =>
      cases h with
      | fetched value _ => exact absurd rfl (he _ value)
      | reset => exact K.fresh?_empty _
      | _ => cases hchanges
  · rw [h.kept_eq hchanges]
    exact K.fresh?_later hs h.time_le

/-- So nobody finds anything until then. -/
theorem Run.no_hit (h : s.Run es u) (hs : K.fresh? s.time s.kept = none)
    (hes : ∀ e ∈ es, ∀ i value, e.act ≠ .fetched i value) :
    ∀ e ∈ es, ∀ i value, e.act ≠ .hit i value := by
  induction h with
  | done => nofun
  | @step s s' u e es hx _ ih =>
    obtain ⟨hhead, htail⟩ := List.forall_mem_cons.mp hes
    refine List.forall_mem_cons.mpr ⟨?_, ih (hx.stale hs hhead) htail⟩
    rintro i value he
    obtain ⟨time, a⟩ := e
    cases he
    have htime := hx.time_le.trans_eq hx.time_eq
    cases (K.fresh?_later hs htime).symm.trans hx.fresh_of_hit

theorem Run.not_reset (h : s.Run es u) (hK : K.forgets = false) : ∀ e ∈ es, e.act ≠ .reset := by
  induction h with
  | done => nofun
  | step hx _ ih =>
    refine List.forall_mem_cons.mpr ⟨fun he => ?_, ih⟩
    cases hx with
    | mk _ hx =>
      cases he
      cases hx with
      | reset hforgets => cases hK.symm.trans hforgets

/-- A call that needs no value does not look. -/
theorem Section.spared (h : s.Section a s') (hi : s.calls i = .begun q) (hq : K.needs q = false)
    (ha : a.call? = some i) : a = .spare i ∨ a = .drop i := by
  cases h with
  | hit hlooks =>
    cases ha
    rw [hi] at hlooks
    cases hlooks with
    | first hneeds => cases hq.symm.trans hneeds
  | begin | miss | unbound | ask | fetched | failed => grind [Act.call?]
  | spare => exact Or.inl (congrArg Act.spare (Option.some.inj ha))
  | drop => exact Or.inr (congrArg Act.drop (Option.some.inj ha))
  | reset | bind => cases ha

/-- A call that has found nothing asks, if there is somebody to ask. -/
theorem Section.asks (h : s.Section a s') (hi : s.calls i = .missed q) (hbound : s.bound = true)
    (hnone : K.fresh? s.time s.kept = none) (ha : a.call? = some i) :
    a = .ask i ∨ a = .drop i := by
  cases h with
  | hit _ _ hfresh => cases hnone.symm.trans hfresh
  | begin | spare | miss | unbound | fetched | failed => grind [Act.call?]
  | ask => exact Or.inl (congrArg Act.ask (Option.some.inj ha))
  | drop => exact Or.inr (congrArg Act.drop (Option.some.inj ha))
  | reset | bind => cases ha

/-! ## Order in a run -/

/-- What can be said of a section after a row of sections. -/
structure Orderly (es : List (Event K)) (s : Sharing K) (e : Event K) (s' : Sharing K) :
    Prop where
  /-- A call that ends with a value has fetched it, or it is what was fetched last, and lasts. -/
  found {i : Nat} {q : K.Query} {value : K.Value} : s'.calls i = .done q (.found value) →
    s.calls i = .done q (.found value) ∨ e.act = .fetched i value ∨
      e.act = .hit i value ∧ ∃ taken, Taken es taken value ∧ Lasts K.lifetime? taken e.time
  /-- Fetches do not succeed while what another one has brought lasts, unless it is forgotten. -/
  apart {i j taken : Nat} {value value' : K.Value} {before after : List (Event K)} :
    e.act = .fetched i value → es = before ++ ⟨taken, .fetched j value'⟩ :: after →
    (∀ x ∈ after, x.act ≠ .reset) → ¬ Lasts K.lifetime? taken e.time
  /-- Only a fetch that succeeds and a reset change what is kept. -/
  kept : ¬ e.act.Changes → s'.kept = s.kept
  /-- At most one fetch is under way. -/
  single {i j : Nat} {q q' : K.Query} : s'.calls i = .fetching q → s'.calls j = .fetching q' →
    i = j
  /-- A call asks only if it needs a value and nothing fresh is kept. -/
  asked {i : Nat} : e.act = .ask i → ∃ q, s.calls i = .missed q ∧ K.needs q = true ∧
    s.bound = true ∧ K.fresh? e.time s.kept = none
  /-- A call that needs no value does nothing. -/
  spared {i : Nat} {q : K.Query} : s.calls i = .begun q → K.needs q = false →
    e.act.call? = some i → e.act = .spare i ∨ e.act = .drop i
  /-- A fetch that fails leaves nothing fresh. -/
  failed {i : Nat} {cause : CallError} : e.act = .failed i cause → K.fresh? s'.time s'.kept = none
  /-- As long as nothing that is kept is fresh, calls find nothing until a fetch succeeds. -/
  blind : K.fresh? s'.time s'.kept = none → ∀ fs u, s'.Run fs u →
    (∀ x ∈ fs, ∀ i value, x.act ≠ .fetched i value) → ∀ x ∈ fs, ∀ i value, x.act ≠ .hit i value
  /-- A call that has missed asks next, whenever it has the lock. -/
  retried {i time : Nat} {q : K.Query} : s'.calls i = .missed q → s'.holder = none →
    s'.bound = true → s'.time ≤ time → K.fresh? time s'.kept = none →
    (∃ u, s'.Step ⟨time, .ask i⟩ u) ∧
      ∀ a u, s'.Step ⟨time, a⟩ u → a.call? = some i → a = .ask i ∨ a = .drop i

theorem Run.orderly {bound : Bool} {start : Nat} (h : (idle K bound start).Run es s)
    (hx : s.Step e s') : Orderly es s e s' where
  found {i q value} hi := by
    obtain ⟨time, a⟩ := e
    rcases hx.ends hi with hsame | hends
    · exact Or.inl hsame
    · cases hends with
      | hit => exact Or.inr (Or.inr ⟨rfl, h.held hx.fresh_of_hit⟩)
      | fetched => exact Or.inr (Or.inl rfl)
  apart {i j taken value value' before after} he hes hafter hlasts := by
    obtain ⟨time, a⟩ := e
    cases he
    subst hes
    have hs := Run.sound h (sound_idle bound start)
    obtain ⟨q, hi⟩ := hx.fetching_of_fetched
    have hlock : s.holder ≠ none := by
      rw [hs.holder_eq hi]
      exact nofun
    have htime := hx.time_le.trans_eq hx.time_eq
    exact Run.not_lasts_of_locked h hafter hlock (hlasts.between le_rfl htime)
  kept := hx.kept_eq
  single := (hx.sound (Run.sound h (sound_idle bound start))).eq_of_fetching
  asked {i} he := by
    obtain ⟨time, a⟩ := e
    cases he
    obtain ⟨q, hi, hbound, hnone⟩ := hx.stale_of_ask
    exact ⟨q, hi, (Run.sound h (sound_idle bound start)).needs (Or.inl hi), hbound, hnone⟩
  spared hi hq ha := by
    cases hx with
    | mk _ hx => exact hx.spared hi hq ha
  failed {i cause} he := by
    have hs := Run.sound h (sound_idle bound start)
    obtain ⟨time, a⟩ := e
    cases he
    refine hx.stale ?_ nofun
    cases hx with
    | mk _ hx =>
      cases hx with
      | failed cause hi =>
        refine hs.stale fun hfree => ?_
        cases (hs.holder_eq hi).symm.trans hfree
  blind hs fs u hfs := Run.no_hit hfs hs
  retried hi hfree hbound htime hnone :=
    ⟨⟨_, .mk htime (.ask hi hfree hnone hbound)⟩, fun a u hu ha => by
      cases hu with
      | mk _ hu => exact hu.asks hi hbound hnone ha⟩

/-! ## Calls of a program -/

/-- How a call goes while no other is under way. -/
inductive Course (α : Type) where
  | spared
  | kept (value : α)
  | unbound
  | failed (cause : CallError)
  | fetched (value : α)
deriving DecidableEq, Repr

namespace Course

variable {α : Type}

def outcome : Course α → Outcome α
  | spared => .spared
  | kept value | fetched value => .found value
  | unbound => .unbound
  | failed cause => .failed cause

/-- Whether a fetch is begun. -/
def asks : Course α → Bool
  | spared | kept _ | unbound => false
  | failed _ | fetched _ => true

/-- What is kept afterwards. -/
def keep (now : Nat) (kept : K.Kept) : Course K.Value → K.Kept
  | fetched value => K.store now value kept
  | _ => kept

/-- What a call meets with that goes so. -/
inductive Fits (bound : Bool) (now : Nat) (kept : K.Kept) (q : K.Query) :
    Course K.Value → Prop where
  | spared : K.needs q = false → Fits bound now kept q .spared
  | kept {value : K.Value} : K.needs q = true → K.fresh? now kept = some value →
      Fits bound now kept q (.kept value)
  | unbound : K.needs q = true → K.fresh? now kept = none → bound = false →
      Fits bound now kept q .unbound
  | failed (cause : CallError) : K.needs q = true → K.fresh? now kept = none → bound = true →
      Fits bound now kept q (.failed cause)
  | fetched (value : K.Value) : K.needs q = true → K.fresh? now kept = none → bound = true →
      Fits bound now kept q (.fetched value)

end Course

/-- A call of a program is one that shares a cache: it looks at one time, and is over later. -/
structure Serves {W α : Type} (time : W → Nat) (answer? : K.Query → Outcome K.Value → Option α)
    (bound : Bool) (q : K.Query) (kept : K.Kept) (w : W) (c : Course K.Value) (answer : α)
    (kept' : K.Kept) (w' : W) : Prop where
  looks : ∃ now, time w ≤ now ∧ now ≤ time w' ∧ c.Fits bound now kept q
  answer_eq : answer? q c.outcome = some answer
  kept_eq : kept' = c.keep (time w') kept

/-- The call is over, and nothing else has changed but for what is kept. -/
structure Followed (s : Sharing K) (i : Nat) (q : K.Query) (c : Course K.Value) (now : Nat)
    (s' : Sharing K) : Prop where
  kept : s'.kept = c.keep now s.kept
  bound : s'.bound = s.bound
  holder : s'.holder = none
  calls : s'.calls = Function.update s.calls i (.done q c.outcome)
  time : s'.time ≤ now

theorem exists_run_to_missed (hfree : s.holder = none) (hi : s.calls i = .waiting)
    (hnow : s.time ≤ now) (hneeds : K.needs q = true) (hnone : K.fresh? now s.kept = none) :
    ∃ es, s.Run es { s.call i (.missed q) with time := now } := by
  let begun : Sharing K := { s.call i (.begun q) with time := now }
  have hbegin : s.Step ⟨now, .begin i q⟩ begun := .mk hnow (.begin q hi)
  have hbegun : begun.calls i = .begun q := by simp [begun]
  have hmiss : begun.Step ⟨now, .miss i⟩ (begun.call i (.missed q)) :=
    .mk le_rfl (.miss hbegun hneeds hfree hnone)
  have hmissed : begun.call i (.missed q) = { s.call i (.missed q) with time := now } := by
    simp [begun, call]
  rw [hmissed] at hmiss
  exact ⟨_, .step hbegin (.step hmiss .done)⟩

theorem exists_run_to_fetching (hfree : s.holder = none) (hi : s.calls i = .waiting)
    (hnow : s.time ≤ now) (hneeds : K.needs q = true) (hnone : K.fresh? now s.kept = none)
    (hbound : s.bound = true) :
    ∃ es, s.Run es { s.call i (.fetching q) with time := now, holder := some i } := by
  obtain ⟨es, hes⟩ := exists_run_to_missed hfree hi hnow hneeds hnone
  let missed : Sharing K := { s.call i (.missed q) with time := now }
  have hmissed : missed.calls i = .missed q := by simp [missed]
  have hask : missed.Step ⟨now, .ask i⟩ { missed.call i (.fetching q) with holder := some i } :=
    .mk le_rfl (.ask hmissed hfree hnone hbound)
  have hasked : ({ missed.call i (.fetching q) with holder := some i } : Sharing K) =
      { s.call i (.fetching q) with time := now, holder := some i } := by
    simp [missed, call]
  rw [hasked] at hask
  exact ⟨_, hes.append (.step hask .done)⟩

/-- While no other call is under way, a call takes all of its sections one after the other. -/
theorem exists_run_of_course {c : Course K.Value} {later : Nat} (hfree : s.holder = none)
    (hi : s.calls i = .waiting) (hnow : s.time ≤ now) (hlater : now ≤ later)
    (hc : c.Fits s.bound now s.kept q) : ∃ es s', s.Run es s' ∧ Followed s i q c later s' := by
  let begun : Sharing K := { s.call i (.begun q) with time := now }
  have hbegin : s.Step ⟨now, .begin i q⟩ begun := .mk hnow (.begin q hi)
  have hbegun : begun.calls i = .begun q := by simp [begun]
  cases hc with
  | spared hneeds =>
    have hspare : begun.Step ⟨now, .spare i⟩ (begun.call i (.done q .spared)) :=
      .mk le_rfl (.spare hbegun hneeds)
    exact ⟨_, _, .step hbegin (.step hspare .done), rfl, rfl, hfree, Function.update_idem ..,
      hlater⟩
  | @kept value hneeds hfresh =>
    have hlooks : (begun.calls i).Looks q := hbegun ▸ .first hneeds
    have hhit : begun.Step ⟨now, .hit i value⟩ (begun.call i (.done q (.found value))) :=
      .mk le_rfl (.hit hlooks hfree hfresh)
    exact ⟨_, _, .step hbegin (.step hhit .done), rfl, rfl, hfree, Function.update_idem .., hlater⟩
  | unbound hneeds hnone hbound =>
    obtain ⟨es, hes⟩ := exists_run_to_missed hfree hi hnow hneeds hnone
    have hend := hes.append (.step (.mk le_rfl (.unbound (i := i) (q := q) (by simp) hfree hnone
      hbound)) .done)
    exact ⟨_, _, hend, rfl, rfl, hfree, Function.update_idem .., hlater⟩
  | failed cause hneeds hnone hbound =>
    obtain ⟨es, hes⟩ := exists_run_to_fetching hfree hi hnow hneeds hnone hbound
    have hend := hes.append (.step (.mk hlater (.failed (i := i) (q := q) cause (by simp))) .done)
    exact ⟨_, _, hend, rfl, rfl, rfl, Function.update_idem .., le_rfl⟩
  | fetched value hneeds hnone hbound =>
    obtain ⟨es, hes⟩ := exists_run_to_fetching hfree hi hnow hneeds hnone hbound
    have hend := hes.append
      (.step (.mk hlater (.fetched (i := i) (q := q) value (by simp))) .done)
    exact ⟨_, _, hend, rfl, rfl, rfl, Function.update_idem .., le_rfl⟩

/-- What is done with a cache by one who makes one call after the other, with the query and the
answer of a call. -/
inductive Use {W α : Type} (time : W → Nat) (answer? : K.Query → Outcome K.Value → Option α) :
    K.Kept × Bool × W → Option (K.Query × α) → K.Kept × Bool × W → Prop where
  | call {q : K.Query} {kept kept' : K.Kept} {bound : Bool} {w w' : W} {c : Course K.Value}
      {answer : α} : Serves time answer? bound q kept w c answer kept' w' →
      Use time answer? (kept, bound, w) (some (q, answer)) (kept', bound, w')
  | reset {kept : K.Kept} {bound : Bool} {w : W} : K.forgets = true →
      Use time answer? (kept, bound, w) none (K.empty, bound, w)
  | bind {kept : K.Kept} {bound : Bool} {w : W} :
      Use time answer? (kept, bound, w) none (kept, true, w)
  | elsewhere {kept : K.Kept} {bound : Bool} {w w' : W} : time w ≤ time w' →
      Use time answer? (kept, bound, w) none (kept, bound, w')

/-- The calls that were made are over, with these answers, and no other call has begun. -/
structure Rests {α : Type} (answer? : K.Query → Outcome K.Value → Option α)
    (calls : List (K.Query × α)) (s : Sharing K) : Prop where
  holder : s.holder = none
  answered {n : Nat} {q : K.Query} {answer : α} : calls[n]? = some (q, answer) →
    ∃ outcome, s.calls n = .done q outcome ∧ answer? q outcome = some answer
  waiting {n : Nat} : calls.length ≤ n → s.calls n = .waiting

theorem Rests.concat {α : Type} {answer? : K.Query → Outcome K.Value → Option α}
    {calls : List (K.Query × α)} {c : Course K.Value} {answer : α} (h : Rests answer? calls s)
    (hs : Followed s calls.length q c now s') (hanswer : answer? q c.outcome = some answer) :
    Rests answer? (calls ++ [(q, answer)]) s' where
  holder := hs.holder
  answered {n q' answer'} hn := by
    rw [hs.calls]
    rcases Nat.lt_trichotomy n calls.length with hlt | rfl | hgt
    · rw [List.getElem?_append_left hlt] at hn
      rw [Function.update_of_ne hlt.ne]
      exact h.answered hn
    · simp only [List.getElem?_concat_length, Option.some_inj, Prod.mk.injEq] at hn
      obtain ⟨rfl, rfl⟩ := hn
      exact ⟨c.outcome, Function.update_self .., hanswer⟩
    · rw [List.getElem?_eq_none (by rw [List.length_append, List.length_singleton]; omega)] at hn
      cases hn
  waiting {n} hn := by
    rw [List.length_append, List.length_singleton] at hn
    rw [hs.calls, Function.update_of_ne (by omega)]
    exact h.waiting (by omega)

/-- Calls that are made one after the other are a run. -/
theorem exists_run_of_uses {W α : Type} {time : W → Nat}
    {answer? : K.Query → Outcome K.Value → Option α} {bound : Bool} {w : W}
    {xs : List (Option (K.Query × α))} {t : K.Kept × Bool × W}
    (h : Steps (Use time answer?) (K.empty, bound, w) xs t) :
    ∃ es s, (idle K bound (time w)).Run es s ∧ s.kept = t.1 ∧ s.bound = t.2.1 ∧
      s.time ≤ time t.2.2 ∧ Rests answer? (xs.filterMap id) s := by
  induction h using Steps.concat_induction with
  | done => exact ⟨[], _, .done, rfl, rfl, le_rfl, rfl, nofun, fun _ => rfl⟩
  | @step xs t x t' _ hx ih =>
    obtain ⟨es, s, hes, hkept, hbound, htime, hrests⟩ := ih
    rw [List.filterMap_append]
    cases hx with
    | call hserves =>
      obtain ⟨now, hnow, hlater, hc⟩ := hserves.looks
      dsimp only at hkept hbound htime
      subst hkept hbound
      have hwaiting := hrests.waiting (le_refl (xs.filterMap id).length)
      obtain ⟨fs, s', hfs, hs'⟩ :=
        exists_run_of_course hrests.holder hwaiting (htime.trans hnow) hlater hc
      exact ⟨es ++ fs, s', hes.append hfs, hs'.kept.trans hserves.kept_eq.symm, hs'.bound, hs'.time,
        hrests.concat hs' hserves.answer_eq⟩
    | reset hforgets =>
      have hreset : s.Step ⟨s.time, .reset⟩ { s with kept := K.empty } :=
        .mk le_rfl (.reset hforgets hrests.holder)
      rw [List.filterMap_cons_none rfl, List.filterMap_nil, List.append_nil]
      exact ⟨_, _, hes.append (.step hreset .done), rfl, hbound, htime, hrests.holder,
        hrests.answered, hrests.waiting⟩
    | bind =>
      have hbind : s.Step ⟨s.time, .bind⟩ { s with bound := true } := .mk le_rfl (.bind s)
      rw [List.filterMap_cons_none rfl, List.filterMap_nil, List.append_nil]
      exact ⟨_, _, hes.append (.step hbind .done), hkept, rfl, htime, hrests.holder,
        hrests.answered, hrests.waiting⟩
    | elsewhere hlater =>
      rw [List.filterMap_cons_none rfl, List.filterMap_nil, List.append_nil]
      exact ⟨es, s, hes, hkept, hbound, htime.trans hlater, hrests⟩

end Sharing

end FleetGate
