import FleetGate.Proofs.Followers

/-!
# Closing what watches

A loop watches something until it is told to end.  Calls that start it and calls that close it may
be under way at the same time.  `Watching.Step` has one rule for each section of a call and one
for the turns of a loop, so that nothing is said about their order.

* A start takes a lock and looks whether a loop was ever started.  If none was, it starts one and
  puts it into a slot.
* A close first tells all loops to end.  Then it takes the lock and empties the slot, waits for
  the loop that was in it, and clears up.  It keeps the lock until it returns.

A loop is over, or in the slot, or waited for by the close that has the lock (`Sound`).  So when a
close has waited, all loops that it found are over.  A loop that is started later finds
that it is to end before it does anything else (`Stopped`).

`WatchKind` says what the calls and the loops do to what they share.
-/

namespace FleetGate

/-- What calls do to what they share with the loops. -/
inductive Chore where
  /-- What a start does before it takes the lock. -/
  | begin
  /-- To note that a loop is started. -/
  | note
  /-- To tell all loops to end. -/
  | cancel
  /-- What a close does first when it has waited. -/
  | drain
  /-- What a close does last. -/
  | finish
  /-- What has nothing to do with starts and closes. -/
  | elsewhere
deriving DecidableEq, Repr

/-- A kind of loops that watch something. -/
structure WatchKind where
  /-- What the loops share with the calls. -/
  Shared : Type
  /-- Where a loop stands. -/
  Place : Type
  Deed : Type
  /-- Where a loop begins that a call starts, if calls start any. -/
  home? : Option Place
  ended : Place
  leave : Deed
  /-- The loops are told to end. -/
  isClosed : Shared → Bool
  /-- A loop was started before. -/
  isWatched : Shared → Bool
  Does : Chore → Shared → Shared → Prop
  Turn : Shared × Place → Deed → Shared × Place → Prop
  isClosed_of_cancel {s s' : Shared} : Does .cancel s s' → isClosed s' = true
  isClosed_of_does {c : Chore} {s s' : Shared} :
    Does c s s' → isClosed s = true → isClosed s' = true
  isWatched_of_note {s s' : Shared} : Does .note s s' → isWatched s' = true
  isWatched_of_does {c : Chore} {s s' : Shared} :
    Does c s s' → c ≠ .note → isWatched s' = isWatched s
  flags_of_turn {s s' : Shared} {l l' : Place} {x : Deed} : Turn (s, l) x (s', l') →
    isClosed s' = isClosed s ∧ isWatched s' = isWatched s
  ne_ended_of_turn {s s' : Shared} {l l' : Place} {x : Deed} : Turn (s, l) x (s', l') → l ≠ ended
  /-- A loop that begins looks first whether it is to end. -/
  turn_home_iff {s s' : Shared} {l l' : Place} {x : Deed} : home? = some l → isClosed s = true →
    (Turn (s, l) x (s', l') ↔ x = leave ∧ s' = s ∧ l' = ended)

/-- Where a call stands that starts a loop. -/
inductive Starter where
  | waiting
  | begun
  | returned
deriving DecidableEq, Repr

/-- Where a call stands that closes the loops. -/
inductive Closer where
  | waiting
  | asked
  /-- It waits for the loop that was in the slot. -/
  | joining (loop? : Option Nat)
  | joined
  | drained
  | returned
deriving DecidableEq, Repr

/-- The call has the lock. -/
def Closer.Holds : Closer → Prop
  | .joining _ | .joined | .drained => True
  | .waiting | .asked | .returned => False

/-- Loops and the calls that start and close them. -/
structure Watching (K : WatchKind) where
  shared : K.Shared
  /-- All loops that were ever started. -/
  loops : List K.Place
  /-- The loop that a close will wait for. -/
  slot : Option Nat
  /-- The close that has the lock. -/
  holder : Option Nat
  starters : Nat → Starter
  closers : Nat → Closer

namespace Watching

variable {K : WatchKind}

/-- No loop was started, and no call has begun. -/
def idle (s : K.Shared) : Watching K := ⟨s, [], none, none, fun _ => .waiting, fun _ => .waiting⟩

/-- One loop was started, and no call has begun. -/
def started (s : K.Shared) (l : K.Place) : Watching K :=
  ⟨s, [l], some 0, none, fun _ => .waiting, fun _ => .waiting⟩

def starter (b : Watching K) (i : Nat) (c : Starter) : Watching K :=
  { b with starters := Function.update b.starters i c }

def closer (b : Watching K) (j : Nat) (c : Closer) : Watching K :=
  { b with closers := Function.update b.closers j c }

/-- A loop is at its end. -/
def halt (b : Watching K) (k : Nat) : Watching K := { b with loops := b.loops.set k K.ended }

/-- What is done in one section. -/
inductive Act (K : WatchKind) where
  | begin (i : Nat)
  | start (i : Nat)
  /-- A start finds that a loop was started before. -/
  | skip (i : Nat)
  | cancel (j : Nat)
  /-- A close takes the lock, and what is in the slot. -/
  | take (j : Nat)
  | join (j : Nat)
  | drain (j : Nat)
  | finish (j : Nat)
  | turn (k : Nat) (x : K.Deed)
  | elsewhere

/-- What each section comes to. -/
inductive Step : Watching K → Act K → Watching K → Prop where
  | begin {b : Watching K} {i : Nat} {s : K.Shared} : b.starters i = .waiting →
      K.Does .begin b.shared s → Step b (.begin i) { b.starter i .begun with shared := s }
  | start {b : Watching K} {i : Nat} {s : K.Shared} {l : K.Place} : b.starters i = .begun →
      b.holder = none → K.isWatched b.shared = false → K.home? = some l →
      K.Does .note b.shared s → Step b (.start i)
        { b.starter i .returned with
          shared := s, loops := b.loops ++ [l], slot := some b.loops.length }
  | skip {b : Watching K} {i : Nat} : b.starters i = .begun → b.holder = none →
      K.isWatched b.shared = true → Step b (.skip i) (b.starter i .returned)
  | cancel {b : Watching K} {j : Nat} {s : K.Shared} : b.closers j = .waiting →
      K.Does .cancel b.shared s → Step b (.cancel j) { b.closer j .asked with shared := s }
  | take {b : Watching K} {j : Nat} : b.closers j = .asked → b.holder = none →
      Step b (.take j) { b.closer j (.joining b.slot) with slot := none, holder := some j }
  | join {b : Watching K} {j : Nat} {loop? : Option Nat} : b.closers j = .joining loop? →
      (∀ k ∈ loop?, b.loops[k]? = some K.ended) → Step b (.join j) (b.closer j .joined)
  | drain {b : Watching K} {j : Nat} {s : K.Shared} : b.closers j = .joined →
      K.Does .drain b.shared s → Step b (.drain j) { b.closer j .drained with shared := s }
  | finish {b : Watching K} {j : Nat} {s : K.Shared} : b.closers j = .drained →
      K.Does .finish b.shared s →
      Step b (.finish j) { b.closer j .returned with shared := s, holder := none }
  | turn {b : Watching K} {k : Nat} {l l' : K.Place} {x : K.Deed} {s : K.Shared} :
      b.loops[k]? = some l → K.Turn (b.shared, l) x (s, l') →
      Step b (.turn k x) { b with shared := s, loops := b.loops.set k l' }
  | elsewhere {b : Watching K} {s : K.Shared} : K.Does .elsewhere b.shared s →
      Step b .elsewhere { b with shared := s }

/-- One section after the other. -/
abbrev Run : Watching K → List (Act K) → Watching K → Prop := Steps Step

variable {b b' b₁ b₂ : Watching K} {a : Act K} {as : List (Act K)} {i j k n : Nat}

/-! ## What a section does to a loop and to a close -/

/-- A loop that a section leaves was there before, and stands where it stood or has taken a turn,
or it has just been started. -/
theorem Step.loop (h : b.Step a b') {l' : K.Place} (hl : b'.loops[k]? = some l') :
    b.loops[k]? = some l' ∨
    (∃ x l, a = .turn k x ∧ b.loops[k]? = some l ∧
      K.Turn (b.shared, l) x (b'.shared, l')) ∨
    (K.isWatched b.shared = false ∧ K.home? = some l' ∧ k = b.loops.length ∧
      b'.slot = some k) := by
  cases h with
  | begin | skip | cancel | take | join | drain | finish | elsewhere => exact Or.inl hl
  | start _ _ hw hhome =>
    obtain hk | hk := Nat.lt_or_ge k b.loops.length
    · exact Or.inl ((List.getElem?_append_left hk).symm.trans hl)
    · rw [List.getElem?_append_right hk, List.getElem?_singleton] at hl
      obtain ⟨h0, he⟩ := Option.ite_none_right_eq_some.mp hl
      cases he
      have hlast : k = b.loops.length := by omega
      exact Or.inr (Or.inr ⟨hw, hhome, hlast, congrArg some hlast.symm⟩)
  | @turn k' l l'' x s hk hx =>
    by_cases he : k' = k
    · subst he
      rw [List.getElem?_set_self (List.getElem?_eq_some_iff.mp hk).1] at hl
      cases hl
      exact Or.inr (Or.inl ⟨x, l, rfl, hk, hx⟩)
    · exact Or.inl ((List.getElem?_set_ne he).symm.trans hl)

theorem Step.length_le (h : b.Step a b') : b.loops.length ≤ b'.loops.length := by
  cases h with
  | begin | skip | cancel | take | join | drain | finish | elsewhere => exact le_rfl
  | start =>
    simp
  | turn => simp

/-- What is closed stays closed. -/
theorem Step.isClosed (h : b.Step a b') (hc : K.isClosed b.shared = true) :
    K.isClosed b'.shared = true := by
  cases h with
  | begin _ hs | start _ _ _ _ hs | cancel _ hs | drain _ hs | finish _ hs | elsewhere hs =>
    exact K.isClosed_of_does hs hc
  | skip | take | join => exact hc
  | turn _ hx => exact (K.flags_of_turn hx).1.trans hc

@[grind =]
theorem closers_closer (b : Watching K) (j i : Nat) (c : Closer) :
    (b.closer j c).closers i = if i = j then c else b.closers i :=
  Function.update_apply b.closers j c i

@[grind =]
theorem holder_closer (b : Watching K) (j : Nat) (c : Closer) :
    (b.closer j c).holder = b.holder := rfl

/-- What a section does to a close. -/
theorem Step.closer (h : b.Step a b') (j : Nat) : b'.closers j = b.closers j ∨
    (a = .cancel j ∧ b.closers j = .waiting ∧ b'.closers j = .asked) ∨
    (a = .take j ∧ b.closers j = .asked ∧ b.holder = none ∧ b'.closers j = .joining b.slot) ∨
    (a = .join j ∧ b'.closers j = .joined ∧ ∃ loop?, b.closers j = .joining loop? ∧
      ∀ k ∈ loop?, b.loops[k]? = some K.ended) ∨
    (a = .drain j ∧ b.closers j = .joined ∧ b'.closers j = .drained) ∨
    (a = .finish j ∧ b.closers j = .drained ∧ b'.closers j = .returned) := by
  cases h with
  | begin | start | skip | turn | elsewhere => exact Or.inl rfl
  | cancel | take | join | drain | finish => grind

/-! ## Loops are waited for -/

/-- Where the loops are, and who has the lock. -/
structure Sound (b : Watching K) : Prop where
  closed {j : Nat} : b.closers j ≠ .waiting → K.isClosed b.shared = true
  held {j : Nat} : (b.closers j).Holds → b.holder = some j
  slot_eq {j : Nat} : b.holder = some j → b.slot = none
  unwatched : K.isWatched b.shared = false → b.loops = []
  once : b.loops.length ≤ 1
  /-- A loop is over, or it is waited for, or will be. -/
  kept {k : Nat} {l : K.Place} : b.loops[k]? = some l →
    l = K.ended ∨ b.slot = some k ∨ ∃ j, b.closers j = .joining (some k)

/-- Before anything is started there is nothing to wait for. -/
theorem sound_idle (s : K.Shared) : (idle s).Sound where
  closed h := absurd rfl h
  held h := h.elim
  slot_eq h := nomatch h
  unwatched _ := rfl
  once := Nat.zero_le 1
  kept h := nomatch h

theorem sound_started {s : K.Shared} (hs : K.isWatched s = true) (l : K.Place) :
    (started s l).Sound where
  closed h := absurd rfl h
  held h := h.elim
  slot_eq h := nomatch h
  unwatched h := nomatch hs.symm.trans h
  once := le_rfl
  kept {k _} h := by
    have hk : k = 0 := Nat.lt_one_iff.mp (List.getElem?_eq_some_iff.mp h).1
    exact Or.inr (Or.inl (congrArg some hk.symm))

/-- Only one close has the lock. -/
theorem Sound.eq_of_holds (hb : b.Sound) (hi : (b.closers i).Holds) (hj : (b.closers j).Holds) :
    i = j :=
  Option.some.inj ((hb.held hi).symm.trans (hb.held hj))

namespace Step

/-- Whoever closes has first marked what it closes. -/
theorem closed (h : b.Step a b') (hb : b.Sound) (hj : b'.closers j ≠ .waiting) :
    K.isClosed b'.shared = true := by
  by_cases hw : b.closers j = .waiting
  · cases h with
    | begin | start | skip | turn | elsewhere => exact absurd hw hj
    | cancel _ hs => exact K.isClosed_of_cancel hs
    | take hc | join hc | drain hc | finish hc => grind
  · exact h.isClosed (hb.closed hw)

theorem held (h : b.Step a b') (hb : b.Sound) (hj : (b'.closers j).Holds) :
    b'.holder = some j := by
  have hold := hb.held (j := j)
  cases h with
  | begin | start | skip | turn | elsewhere => exact hold hj
  | cancel | take | join | drain => grind [Closer.Holds]
  | finish hc =>
    have hlock := hb.held (by rw [hc]; exact trivial)
    grind [Closer.Holds]

theorem slot_eq (h : b.Step a b') (hb : b.Sound) (hj : b'.holder = some j) : b'.slot = none := by
  cases h with
  | begin | skip | cancel | join | drain | turn | elsewhere => exact hb.slot_eq hj
  | start _ hn => exact absurd (hn.symm.trans hj) nofun
  | take => rfl
  | finish => cases hj

/-- No loop starts without a note of it. -/
theorem unwatched (h : b.Step a b') (hb : b.Sound) (hw : K.isWatched b'.shared = false) :
    b'.loops = [] := by
  cases h with
  | begin _ hs | cancel _ hs | drain _ hs | finish _ hs | elsewhere hs =>
    exact hb.unwatched ((K.isWatched_of_does hs nofun).symm.trans hw)
  | start _ _ _ _ hs => exact nomatch (K.isWatched_of_note hs).symm.trans hw
  | skip | take | join => exact hb.unwatched hw
  | turn hl hx =>
    rw [hb.unwatched ((K.flags_of_turn hx).2.symm.trans hw)] at hl
    cases hl

/-- No more than one loop is ever started. -/
theorem once (h : b.Step a b') (hb : b.Sound) : b'.loops.length ≤ 1 := by
  cases h with
  | begin | skip | cancel | take | join | drain | finish | elsewhere => exact hb.once
  | start _ _ hw =>
    rw [hb.unwatched hw]
    exact le_rfl
  | turn => exact (List.length_set ..).trans_le hb.once

/-- The slot is emptied only by a close that then waits for the loop in it. -/
theorem kept (h : b.Step a b') (hb : b.Sound) {l : K.Place} (hl : b'.loops[k]? = some l) :
    l = K.ended ∨ b'.slot = some k ∨ ∃ j, b'.closers j = .joining (some k) := by
  -- either the loop stays where it is, or it takes a turn, or it has just been started
  obtain hsame | ⟨x, l₀, rfl, hl₀, hx⟩ | ⟨-, -, -, hslot⟩ := h.loop hl
  · obtain hover | hslot | ⟨j, hj⟩ := hb.kept hsame
    · exact Or.inl hover
    · cases h with
      | begin | skip | cancel | join | drain | finish | turn | elsewhere =>
        exact Or.inr (Or.inl hslot)
      | start _ _ hw =>
        rw [hb.unwatched hw] at hsame
        cases hsame
      | @take j => exact Or.inr (Or.inr ⟨j, by grind⟩)
    · have hmove := h.closer j
      grind
  · cases h
    exact Or.inr ((hb.kept hl₀).resolve_left (K.ne_ended_of_turn hx))
  · exact Or.inr (Or.inl hslot)

/-- Every section keeps the order of starts and closes. -/
theorem sound (h : b.Step a b') (hb : b.Sound) : b'.Sound where
  closed := h.closed hb
  held := h.held hb
  slot_eq := h.slot_eq hb
  unwatched := h.unwatched hb
  once := h.once hb
  kept := h.kept hb

end Step

theorem Run.sound (h : b.Run as b') (hb : b.Sound) : b'.Sound := by
  induction h with
  | done => exact hb
  | step hx _ ih => exact ih (hx.sound hb)

/-! ## No loop goes on -/

/-- All loops are over, but for those from the `n`-th on, which have not left the place where they
begin. -/
structure Stopped (n : Nat) (b : Watching K) : Prop where
  closed : K.isClosed b.shared = true
  length_le : n ≤ b.loops.length
  loop {k : Nat} {l : K.Place} : b.loops[k]? = some l → l = K.ended ∨ n ≤ k ∧ K.home? = some l

namespace Stopped

/-- No loop does anything but leave, and only a late one does. -/
theorem turn (hb : b.Stopped n) {x : K.Deed} (h : b.Step (.turn k x) b') :
    n ≤ k ∧ x = K.leave ∧ b' = b.halt k := by
  cases h with
  | turn hl hx =>
    obtain ⟨hk, hhome⟩ := (hb.loop hl).resolve_left (K.ne_ended_of_turn hx)
    obtain ⟨hleave, rfl, rfl⟩ := (K.turn_home_iff hhome hb.closed).mp hx
    exact ⟨hk, hleave, rfl⟩

/-- A loop that is not over can leave. -/
theorem halt (hb : b.Stopped n) {l : K.Place} (hl : b.loops[k]? = some l) (ho : l ≠ K.ended) :
    b.Step (.turn k K.leave) (b.halt k) := by
  obtain ⟨-, hhome⟩ := (hb.loop hl).resolve_left ho
  exact .turn hl ((K.turn_home_iff hhome hb.closed).mpr ⟨rfl, rfl, rfl⟩)

/-- Where no call starts a loop, all loops are over. -/
theorem eq_ended (hb : b.Stopped n) (hhome : K.home? = none) {l : K.Place} (hl : l ∈ b.loops) :
    l = K.ended := by
  obtain ⟨k, hk⟩ := List.mem_iff_getElem?.mp hl
  refine (hb.loop hk).resolve_right fun hlate => ?_
  cases hhome.symm.trans hlate.2

/-- So no loop takes a turn. -/
theorem not_turn (hb : b.Stopped n) (hhome : K.home? = none) (x : K.Deed) :
    ¬ b.Step (.turn k x) b' := by
  intro h
  cases h with
  | turn hl hx => exact K.ne_ended_of_turn hx (hb.eq_ended hhome (List.mem_of_getElem? hl))

/-- What is stopped stays stopped. -/
theorem step (hb : b.Stopped n) (h : b.Step a b') : b'.Stopped n where
  closed := h.isClosed hb.closed
  length_le := hb.length_le.trans h.length_le
  loop {k l} hl := by
    obtain hsame | ⟨x, l₀, rfl, hl₀, hx⟩ | ⟨-, hhome, rfl, -⟩ := h.loop hl
    · exact hb.loop hsame
    · obtain ⟨-, hhome⟩ := (hb.loop hl₀).resolve_left (K.ne_ended_of_turn hx)
      exact Or.inl ((K.turn_home_iff hhome hb.closed).mp hx).2.2
    · exact Or.inr ⟨hb.length_le, hhome⟩

theorem run (hb : b.Stopped n) (h : b.Run as b') : b'.Stopped n := by
  induction h with
  | done => exact hb
  | step hx _ ih => exact ih (hb.step hx)

end Stopped

/-! ## A close has waited -/

/-- A close waits for the last of `n` loops, or none of them goes on. -/
def Settles (j n : Nat) (b : Watching K) : Prop :=
  (∃ loop?, b.closers j = .joining loop?) ∧ n ≤ b.loops.length ∨ b.Stopped n

/-- A close that has returned does not wait. -/
theorem Settles.stopped (h : b.Settles j n) (hj : b.closers j = .returned) : b.Stopped n := by
  obtain ⟨⟨loop?, hwaits⟩, -⟩ | hs := h
  · cases hj.symm.trans hwaits
  · exact hs

/-- When a close has waited, all loops are over: a loop in the slot would have been taken out of
it, and no other close waits for one. -/
theorem Sound.stopped_of_join (hb : b.Sound) {loop? : Option Nat}
    (hj : b.closers j = .joining loop?) (hover : ∀ k ∈ loop?, b.loops[k]? = some K.ended)
    (hn : n ≤ b.loops.length) : b.Stopped n where
  closed := hb.closed (by rw [hj]; exact nofun)
  length_le := hn
  loop {k l} hl := by
    have hholds : (b.closers j).Holds := by rw [hj]; exact trivial
    obtain ho | hslot | ⟨i, hi⟩ := hb.kept hl
    · exact Or.inl ho
    · cases (hb.slot_eq (hb.held hholds)).symm.trans hslot
    · have hij : i = j := hb.eq_of_holds (by rw [hi]; exact trivial) hholds
      subst hij
      cases hj.symm.trans hi
      cases hl.symm.trans (hover k rfl)
      exact Or.inl rfl

/-- Until a close returns, every section keeps what it has to wait for. -/
theorem Step.settles (h : b.Step a b') (hb : b.Sound) (hs : b.Settles j n) : b'.Settles j n := by
  obtain ⟨⟨loop?, hj⟩, hn⟩ | hs := hs
  · obtain hsame | ⟨-, hc, -⟩ | ⟨-, hc, -⟩ | ⟨rfl, -, loop', hc, hover⟩ | ⟨-, hc, -⟩ | ⟨-, hc, -⟩ :=
      h.closer j
    · exact Or.inl ⟨⟨loop?, hsame.trans hj⟩, hn.trans h.length_le⟩
    · cases hj.symm.trans hc
    · cases hj.symm.trans hc
    · exact Or.inr ((hb.stopped_of_join hc hover hn).step h)
    · cases hj.symm.trans hc
    · cases hj.symm.trans hc
  · exact Or.inr (hs.step h)

theorem Run.settles (h : b.Run as b') (hb : b.Sound) (hs : b.Settles j n) : b'.Settles j n := by
  induction h with
  | done => exact hs
  | step hx _ ih => exact ih (hx.sound hb) (hx.settles hb hs)

theorem Step.settles_of_take (h : b.Step (.take j) b') (hn : n ≤ b.loops.length) :
    b'.Settles j n := by
  have hmove := h.closer j
  have hlength := hn.trans h.length_le
  cases h
  exact Or.inl ⟨⟨b.slot, by grind⟩, hlength⟩

/-- When a close has returned, the loops that it found are over. -/
theorem Run.stopped (h : b₁.Run as b₂) (hb : b.Sound) (htake : b.Step (.take j) b₁)
    (hj : b₂.closers j = .returned) : b₂.Stopped b.loops.length :=
  (h.settles (htake.sound hb) (htake.settles_of_take le_rfl)).stopped hj

/-- A close returns only when it has waited. -/
theorem Run.stopped_of_returned (h : b.Run as b') (hb : b.Sound) (hw : b.closers j = .waiting)
    (hj : b'.closers j = .returned) : b'.Stopped 0 := by
  -- up to the section in which the close takes the lock it has not waited for anything
  have hearly : b.closers j = .waiting ∨ b.closers j = .asked := Or.inl hw
  clear hw
  induction h with
  | done =>
    rw [hj] at hearly
    exact hearly.elim nofun nofun
  | step hx hrest ih =>
    obtain hsame | ⟨-, -, hasked⟩ | ⟨rfl, -⟩ | ⟨-, -, loop?, hc, -⟩ | ⟨-, hc, -⟩ | ⟨-, hc, -⟩ :=
      hx.closer j
    · exact ih (hx.sound hb) hj (hsame ▸ hearly)
    · exact ih (hx.sound hb) hj (Or.inr hasked)
    · have hs := hx.settles_of_take (Nat.zero_le _)
      exact (Run.settles hrest (hx.sound hb) hs).stopped hj
    · rw [hc] at hearly
      exact hearly.elim nofun nofun
    · rw [hc] at hearly
      exact hearly.elim nofun nofun
    · rw [hc] at hearly
      exact hearly.elim nofun nofun

/-- Once a close has returned, the loops that were there when it took the lock are over for good,
and whatever a later loop does is to leave, which it can. -/
def EndsForGood (b₀ : Watching K) : Prop :=
  ∀ ⦃as bs cs : List (Act K)⦄ ⦃b b₁ b₂ b₃ : Watching K⦄ ⦃j : Nat⦄, b₀.Run as b →
    b.Step (.take j) b₁ → b₁.Run bs b₂ → b₂.closers j = .returned → b₂.Run cs b₃ →
    (∀ k < b.loops.length, b₃.loops[k]? = some K.ended) ∧
    (∀ k x b₄, b₃.Step (.turn k x) b₄ → b.loops.length ≤ k ∧ x = K.leave ∧ b₄ = b₃.halt k) ∧
    ∀ k l, b₃.loops[k]? = some l → l ≠ K.ended → b₃.Step (.turn k K.leave) (b₃.halt k)

/-- All that is closed ends, and ends for good. -/
theorem Sound.endsForGood (hb : b.Sound) : b.EndsForGood := by
  intro as bs cs b b₁ b₂ b₃ j has htake hbs hj hcs
  have hstopped := (hbs.stopped (Run.sound has hb) htake hj).run hcs
  refine ⟨fun k hk => ?_, fun k x b₄ => hstopped.turn, fun k l => hstopped.halt⟩
  have hl := List.getElem?_eq_getElem (hk.trans_le hstopped.length_le)
  rw [hl, (hstopped.loop hl).resolve_right fun hlate => absurd hk hlate.1.not_gt]

end Watching

end FleetGate
