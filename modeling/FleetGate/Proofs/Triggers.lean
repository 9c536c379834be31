import FleetGate.Debouncer
import Mathlib.Data.List.Induction

/-!
# What a debouncer fires for

A debouncer is triggered, cancelled and looked after in any order, at times that do not go back.
What it does is told by the calls before and by what came of them.

* A trigger is awaited (`Awaited`) if it is the latest one, and since then nothing was cancelled
  and nothing has fired.
* A debouncer is pending exactly if a trigger is awaited, and it is due one window after that
  trigger (`deadline?_after`).  So a call fires exactly if a window has passed since the trigger
  that is awaited (`perform_fires_iff`).
* In a `Burst` each trigger comes less than one window after the one before.  The first call that
  comes at least one window after the last of them fires, and no other one does
  (`Burst.fires`).

`Debounces` puts this together.
-/

namespace FleetGate.Debouncer

/-- What is done with a debouncer, and when. -/
inductive Call where
  /-- It is triggered. -/
  | trigger (now : Nat)
  /-- It is cancelled. -/
  | cancel (now : Nat)
  /-- It is asked whether it fires. -/
  | take (now : Nat)
deriving DecidableEq, Repr

/-- When a call comes. -/
def Call.time : Call → Nat
  | .trigger now | .cancel now | .take now => now

def Call.isTrigger : Call → Bool
  | .trigger _ => true
  | .cancel _ | .take _ => false

/-- Whether a call fires, and the debouncer after it. -/
def perform (d : Debouncer) : Call → Bool × Debouncer
  | .trigger now => (false, d.trigger now)
  | .cancel _ => (false, d.cancel)
  | .take now => d.take now

/-- The debouncer after some calls. -/
def after (d : Debouncer) (calls : List Call) : Debouncer :=
  calls.foldl (fun d c => (d.perform c).2) d

/-- Some calls, and whether each of them fires. -/
def journal (d : Debouncer) : List Call → List (Call × Bool)
  | [] => []
  | c :: calls => (c, (d.perform c).1) :: journal (d.perform c).2 calls

/-- How often something has fired. -/
def firings (entries : List (Call × Bool)) : Nat := entries.countP (·.2)

/-- The latest trigger came at a time, and since then nothing was cancelled and nothing has
fired. -/
def Awaited (entries : List (Call × Bool)) (time : Nat) : Prop :=
  ∃ xs ys, entries = xs ++ (.trigger time, false) :: ys ∧
    ∀ e ∈ ys, ∃ now, e = (.take now, false)

/-- Triggers of which each comes less than a window after the one before, the last one at a given
time.  It may be asked at any time whether the debouncer fires, and it is not cancelled. -/
inductive Burst (window : Nat) : List Call → Nat → Prop where
  | first (now : Nat) : Burst window [.trigger now] now
  | asked {calls : List Call} {last : Nat} (now : Nat) :
      Burst window calls last → Burst window (calls ++ [.take now]) last
  | again {calls : List Call} {last now : Nat} :
      Burst window calls last → now < last + window → Burst window (calls ++ [.trigger now]) now

/-- Every answer is no until it is asked when a firing is due.  Then it is yes once, and no again
from then on. -/
inductive FiresOnce (due : Nat) : List Call → List (Call × Bool) → Prop where
  | early {calls : List Call} : (∀ now, .take now ∈ calls → now < due) →
      FiresOnce due calls (calls.map (·, false))
  | late {xs ys : List Call} {now : Nat} : (∀ earlier, .take earlier ∈ xs → earlier < due) →
      due ≤ now → FiresOnce due (xs ++ .take now :: ys)
        (xs.map (·, false) ++ (.take now, true) :: ys.map (·, false))

/-- Times do not go back. -/
def InOrder (calls : List Call) : Prop := calls.Pairwise fun c c' => c.time ≤ c'.time

variable {d : Debouncer} {c : Call} {calls xs ys zs : List Call} {entries : List (Call × Bool)}
  {window now time last a b : Nat}

/-! ## Calls one after the other -/

@[simp] theorem after_nil : d.after [] = d := rfl

@[simp] theorem after_append : d.after (xs ++ ys) = (d.after xs).after ys :=
  List.foldl_append

@[simp] theorem after_cons : d.after (c :: calls) = (d.perform c).2.after calls := rfl

@[simp] theorem journal_nil : d.journal [] = [] := rfl

@[simp] theorem journal_cons :
    d.journal (c :: calls) = (c, (d.perform c).1) :: (d.perform c).2.journal calls := rfl

@[simp] theorem journal_append :
    d.journal (xs ++ ys) = d.journal xs ++ (d.after xs).journal ys := by
  induction xs generalizing d with
  | nil => rfl
  | cons c xs ih => simp [ih]

/-- What stands in a journal was called, and its answer is that of the debouncer after the calls
before. -/
theorem exists_of_journal_eq {e : Call × Bool} {before rest : List (Call × Bool)}
    (h : d.journal calls = before ++ e :: rest) :
    ∃ xs ys, calls = xs ++ e.1 :: ys ∧ before = d.journal xs ∧
      e.2 = ((d.after xs).perform e.1).1 := by
  induction before generalizing d calls with
  | nil =>
    cases calls with
    | nil => simp at h
    | cons c calls =>
      simp only [journal_cons, List.nil_append, List.cons.injEq] at h
      obtain ⟨rfl, -⟩ := h
      exact ⟨[], calls, by simp⟩
  | cons e' before ih =>
    cases calls with
    | nil => simp at h
    | cons c calls =>
      simp only [journal_cons, List.cons_append, List.cons.injEq] at h
      obtain ⟨rfl, hrest⟩ := h
      obtain ⟨xs, ys, rfl, rfl, he⟩ := ih hrest
      exact ⟨c :: xs, ys, by simp [he]⟩

@[simp] theorem window_start : (start window).window = window := rfl

@[simp] theorem window_perform : (d.perform c).2.window = d.window := by
  cases c with
  | trigger now => rfl
  | cancel now => rfl
  | take now =>
    simp only [perform, take]
    split
    · split <;> rfl
    · rfl

/-- The window stays what it is. -/
@[simp] theorem window_after : (d.after calls).window = d.window := by
  induction calls generalizing d with
  | nil => rfl
  | cons c calls ih => simp [ih]

/-- Only a call that asks can fire. -/
theorem perform_take_fires_iff :
    (d.perform (.take now)).1 = true ↔
      ∃ deadline, d.deadline? = some deadline ∧ deadline ≤ now := by
  simp only [perform, take]
  cases d.deadline? with
  | none => simp
  | some deadline => by_cases h : deadline ≤ now <;> simp [h]

/-- A firing uses up what was awaited. -/
theorem perform_take_of_fires (h : (d.perform (.take now)).1 = true) :
    (d.perform (.take now)).2 = d.cancel := by
  obtain ⟨deadline, hdeadline, hle⟩ := perform_take_fires_iff.mp h
  simp [perform, take, hdeadline, hle]

theorem perform_take_of_not_fires (h : (d.perform (.take now)).1 = false) :
    (d.perform (.take now)).2 = d := by
  revert h
  simp only [perform, take]
  split
  · split <;> simp
  · simp

/-! ## The trigger that is awaited -/

theorem not_awaited_nil : ¬ Awaited [] time := by
  rintro ⟨xs, ys, h, -⟩
  simp at h

/-- A trigger is awaited if it has just come, or if it was awaited and it was asked in vain. -/
@[simp] theorem awaited_concat {e : Call × Bool} : Awaited (entries ++ [e]) time ↔
    e = (.trigger time, false) ∨ (∃ now, e = (.take now, false)) ∧ Awaited entries time := by
  constructor
  · rintro ⟨xs, ys, h, hys⟩
    rcases List.eq_nil_or_concat ys with rfl | ⟨ys, e', rfl⟩
    · obtain ⟨-, he⟩ := List.append_inj' h rfl
      exact Or.inl (List.singleton_inj.mp he)
    · rw [List.concat_eq_append, ← List.cons_append, ← List.append_assoc] at h
      obtain ⟨rfl, he⟩ := List.append_inj' h rfl
      cases List.singleton_inj.mp he
      exact Or.inr ⟨hys e (by simp), xs, ys, rfl, fun e' he' => hys e' (by simp [he'])⟩
  · rintro (rfl | ⟨⟨now, rfl⟩, xs, ys, rfl, hys⟩)
    · exact ⟨entries, [], rfl, by simp⟩
    · refine ⟨xs, ys ++ [(.take now, false)], by simp, fun e he => ?_⟩
      rcases List.mem_append.mp he with he | he
      · exact hys e he
      · exact ⟨now, List.mem_singleton.mp he⟩

/-- A debouncer is due one window after the trigger that is awaited. -/
theorem deadline?_after {deadline : Nat} : ((start window).after calls).deadline? = some deadline ↔
    ∃ time, Awaited ((start window).journal calls) time ∧ deadline = time + window := by
  induction calls using List.reverseRecOn generalizing deadline with
  | nil => simp [start, not_awaited_nil]
  | append_singleton calls c ih =>
    simp only [after_append, journal_append, journal_cons, journal_nil, after_cons, after_nil]
    cases c with
    | trigger now => simp [perform, trigger, start, eq_comm]
    | cancel now => simp [perform, cancel]
    | take now =>
      cases hfires : (((start window).after calls).perform (.take now)).1 with
      | false => simp [perform_take_of_not_fires hfires, ih]
      | true => simp [perform_take_of_fires hfires, cancel]

/-- A debouncer waits exactly if a trigger is awaited. -/
theorem isPending_after : ((start window).after calls).isPending = true ↔
    ∃ time, Awaited ((start window).journal calls) time := by
  simp [isPending, Option.isSome_iff_exists, deadline?_after]

/-- A question is answered with a firing exactly if one window has passed since the trigger that
is awaited. -/
theorem perform_fires_iff : (((start window).after calls).perform (.take now)).1 = true ↔
    ∃ time, Awaited ((start window).journal calls) time ∧ time + window ≤ now := by
  rw [perform_take_fires_iff]
  constructor
  · rintro ⟨deadline, hdeadline, hle⟩
    obtain ⟨time, htime, rfl⟩ := deadline?_after.mp hdeadline
    exact ⟨time, htime, hle⟩
  · rintro ⟨time, htime, hle⟩
    exact ⟨time + window, deadline?_after.mpr ⟨time, htime, rfl⟩, hle⟩

/-! ## Firings along a journal -/

/-- There is a trigger for each firing, and one more if a firing is to come. -/
theorem firings_le_triggers : firings ((start window).journal calls) +
    ((start window).after calls).isPending.toNat ≤ calls.countP Call.isTrigger := by
  induction calls using List.reverseRecOn with
  | nil => simp [firings, start, isPending]
  | append_singleton calls c ih =>
    simp only [firings] at ih ⊢
    simp only [after_append, journal_append, journal_cons, journal_nil, after_cons, after_nil,
      List.countP_append, List.countP_singleton]
    cases c with
    | trigger now => simp [perform, trigger, isPending, Call.isTrigger] at ih ⊢; omega
    | cancel now => simp [perform, cancel, isPending, Call.isTrigger] at ih ⊢; omega
    | take now =>
      cases hfires : (((start window).after calls).perform (.take now)).1 with
      | false => simpa [perform_take_of_not_fires hfires, Call.isTrigger] using ih
      | true =>
        obtain ⟨deadline, hdeadline, -⟩ := perform_take_fires_iff.mp hfires
        simpa [perform_take_of_fires hfires, cancel, isPending, hdeadline, Call.isTrigger] using ih

theorem map_fst_journal : (d.journal calls).map Prod.fst = calls := by
  induction calls generalizing d with
  | nil => rfl
  | cons c calls ih => simp [ih]

/-- What is awaited after a firing was triggered after it. -/
theorem Awaited.mem_of_fired {xs ys : List (Call × Bool)}
    (h : Awaited (xs ++ (.take now, true) :: ys) time) : (.trigger time, false) ∈ ys := by
  obtain ⟨before, after, he, hafter⟩ := h
  rcases List.append_eq_append_iff.mp he with ⟨zs, rfl, hzs⟩ | ⟨zs, rfl, hzs⟩
  · cases zs with
    | nil => simp at hzs
    | cons z zs => simp at hzs; simp [hzs]
  · -- the firing would be among the questions that were asked in vain
    cases zs with
    | nil => simp at hzs
    | cons z zs =>
      simp at hzs
      obtain ⟨now', he⟩ := hafter (.take now, true) (by simp [hzs])
      simp at he

/-- Two firings are at least one window apart. -/
theorem firings_apart {xs ys zs : List (Call × Bool)} (ho : InOrder calls)
    (h : (start window).journal calls = xs ++ (.take a, true) :: ys ++ (.take b, true) :: zs) :
    a + window ≤ b := by
  obtain ⟨us, vs, rfl, hus, hfires⟩ := exists_of_journal_eq h
  obtain ⟨time, htime, hle⟩ := perform_fires_iff.mp hfires.symm
  rw [← hus] at htime
  have hordered := (List.pairwise_append.mp ho).1
  have hcalls : ((start window).journal us).map Prod.fst = us := map_fst_journal
  rw [← hcalls, ← hus, List.map_append, List.map_cons, List.pairwise_append,
    List.pairwise_cons] at hordered
  have hafter : a ≤ time :=
    hordered.2.1.1 _ (List.mem_map_of_mem (f := Prod.fst) htime.mem_of_fired)
  omega

/-! ## Bursts -/

/-- A burst has a last trigger. -/
theorem Burst.trigger_mem (h : Burst window calls last) : .trigger last ∈ calls := by
  induction h with
  | first now => simp
  | asked now _ ih => simp [ih]
  | again _ _ _ => simp

/-- In a burst nothing fires before one window has passed since the last trigger, and the first
question after that is answered with a firing.  Until then the debouncer is due at that time, and
from then on it is not. -/
theorem Burst.fires (h : Burst d.window calls last) (ho : InOrder calls) :
    (∀ now, .take now ∈ calls → now < last + d.window) ∧
      d.journal calls = calls.map (·, false) ∧
      (d.after calls).deadline? = some (last + d.window) ∨
    ∃ xs now ys, calls = xs ++ .take now :: ys ∧ last + d.window ≤ now ∧
      (∀ earlier, .take earlier ∈ xs → earlier < last + d.window) ∧
      d.journal calls = xs.map (·, false) ++ (.take now, true) :: ys.map (·, false) ∧
      (d.after calls).deadline? = none := by
  induction h with
  | first now => exact Or.inl ⟨by simp, by simp [perform], by simp [perform, trigger]⟩
  | @asked calls last now hburst ih =>
    rcases ih (List.pairwise_append.mp ho).1 with
      ⟨hearly, hjournal, hdue⟩ | ⟨xs, fired, ys, rfl, hlate, hearly, hjournal, hdue⟩
    · by_cases hnow : last + d.window ≤ now
      · have hfires : ((d.after calls).perform (.take now)).1 = true :=
          perform_take_fires_iff.mpr ⟨_, hdue, hnow⟩
        refine Or.inr ⟨calls, now, [], rfl, hnow, hearly, ?_, ?_⟩
        · simp [hjournal, hfires]
        · simp [perform_take_of_fires hfires, cancel]
      · have hfires : ((d.after calls).perform (.take now)).1 = false := by
          simp [perform, take, hdue, hnow]
        refine Or.inl ⟨fun asked hasked => ?_, ?_, ?_⟩
        · rcases List.mem_append.mp hasked with hasked | hasked
          · exact hearly asked hasked
          · simp at hasked
            omega
        · simp [hjournal, hfires]
        · simp [perform_take_of_not_fires hfires, hdue]
    · have hfires : ((d.after (xs ++ .take fired :: ys)).perform (.take now)).1 = false := by
        simp only [perform, take, hdue]
      refine Or.inr ⟨xs, fired, ys ++ [.take now], by simp, hlate, hearly, ?_, ?_⟩
      · rw [journal_append, hjournal]
        simp only [journal_cons, journal_nil, hfires]
        simp
      · rw [after_append, after_cons, after_nil, perform_take_of_not_fires hfires, hdue]
  | @again calls last now hburst hnow ih =>
    obtain ⟨hordered, -, hpair⟩ := List.pairwise_append.mp ho
    have hbefore : ∀ c ∈ calls, c.time ≤ now :=
      fun c hc => hpair c hc _ (List.mem_singleton_self _)
    have hlast : last ≤ now := hbefore _ hburst.trigger_mem
    rcases ih hordered with ⟨hearly, hjournal, -⟩ | ⟨xs, fired, ys, rfl, hlate, -⟩
    · refine Or.inl ⟨fun asked hasked => ?_, ?_, ?_⟩
      · rcases List.mem_append.mp hasked with hasked | hasked
        · have hasked : asked ≤ now := hbefore _ hasked
          omega
        · simp at hasked
      · simp [hjournal, perform]
      · simp [perform, trigger]
    · -- the firing would come after the trigger, which comes too early for that
      have hfired : fired ≤ now := hbefore (.take fired) (by simp)
      omega

/-- So a burst has one firing at most, and it has one if it is asked late enough. -/
theorem Burst.firesOnce (h : Burst d.window calls last) (ho : InOrder calls) :
    FiresOnce (last + d.window) calls (d.journal calls) := by
  rcases h.fires ho with ⟨hearly, hjournal, -⟩ | ⟨xs, now, ys, rfl, hlate, hearly, hjournal, -⟩
  · rw [hjournal]
    exact .early hearly
  · rw [hjournal]
    exact .late hearly hlate

/-! ## All of it -/

/-- What a debouncer does, told by the calls that are made and by what came of them. -/
structure Debounces (window : Nat) (calls : List Call) : Prop where
  /-- It fires if a trigger is awaited that came at least one window ago. -/
  fires_iff {xs ys : List Call} {now : Nat} : calls = xs ++ .take now :: ys →
    ((((start window).after xs).take now).1 = true ↔
      ∃ time, Awaited ((start window).journal xs) time ∧ time + window ≤ now)
  isPending_iff {xs ys : List Call} : calls = xs ++ ys →
    (((start window).after xs).isPending = true ↔
      ∃ time, Awaited ((start window).journal xs) time)
  deadline?_eq_iff {xs ys : List Call} {deadline : Nat} : calls = xs ++ ys →
    (((start window).after xs).deadline? = some deadline ↔
      ∃ time, Awaited ((start window).journal xs) time ∧ deadline = time + window)
  firings_le {xs ys : List Call} : calls = xs ++ ys →
    firings ((start window).journal xs) ≤ xs.countP Call.isTrigger
  firings_apart {xs ys zs : List (Call × Bool)} {a b : Nat} :
    (start window).journal calls = xs ++ (.take a, true) :: ys ++ (.take b, true) :: zs →
      a + window ≤ b
  /-- A burst fires once, however it began and whatever came before it. -/
  fires_once {xs ys zs : List Call} {last : Nat} : calls = xs ++ (ys ++ zs) →
    Burst window ys last → FiresOnce (last + window) ys (((start window).after xs).journal ys)

/-- At times that do not go back, a debouncer fires one window after the last of its triggers, once
for each burst of them, and for nothing else. -/
theorem firings_follow_triggers (window : Nat) {calls : List Call} (ho : InOrder calls) :
    Debounces window calls where
  fires_iff _ := perform_fires_iff
  isPending_iff _ := isPending_after
  deadline?_eq_iff _ := deadline?_after
  firings_le _ := Nat.le_trans (Nat.le_add_right _ _) firings_le_triggers
  firings_apart := Debouncer.firings_apart ho
  fires_once {xs ys zs last} he hburst := by
    have hordered : InOrder ys := by
      rw [he] at ho
      exact (List.pairwise_append.mp (List.pairwise_append.mp ho).2.1).1
    have hbegun : Burst ((start window).after xs).window ys last := by simpa using hburst
    simpa using hbegun.firesOnce hordered

/-- Two triggers within one window are answered with one firing, one window after the second. -/
theorem firings_follow_triggers_twice :
    InOrder [.trigger 0, .take 4, .trigger 4, .take 8, .take 9, .take 10] ∧
    Debounces 5 [.trigger 0, .take 4, .trigger 4, .take 8, .take 9, .take 10] ∧
    (start 5).journal [.trigger 0, .take 4, .trigger 4, .take 8, .take 9, .take 10] =
      [(.trigger 0, false), (.take 4, false), (.trigger 4, false), (.take 8, false),
        (.take 9, true), (.take 10, false)] := by
  have ho : InOrder [.trigger 0, .take 4, .trigger 4, .take 8, .take 9, .take 10] := by
    simp [InOrder, Call.time]
  exact ⟨ho, firings_follow_triggers 5 ho, rfl⟩

end FleetGate.Debouncer
