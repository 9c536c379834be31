import FleetGate.Network

/-!
# Programs that run in a world

The gate is written for any monad that has a clock and a network.  To say what a
program does, it is run in a world, which gives its answer and the world after it.
A world is any state at all.  It may hold the servers, all that they will ever answer,
and a record of what has reached them.

`Runs m W` says that the programs of `m` run in the worlds of `W`, and that a program
made of two parts runs them one after the other.  A program with a state of its own
runs in a world that has this state beside it.
-/

namespace FleetGate

/-- A monad whose programs run in worlds. -/
class Runs (m : Type → Type) [Monad m] (W : outParam Type) where
  /-- The answer of a program, and the world after it. -/
  run {α : Type} : m α → W → α × W
  run_pure {α : Type} (a : α) (w : W) : run (pure a) w = (a, w)
  run_bind {α β : Type} (x : m α) (f : α → m β) (w : W) :
    run (x >>= f) w = run (f (run x w).1) (run x w).2

namespace Runs

variable {m : Type → Type} [Monad m] {W : Type} [Runs m W] {α β σ : Type}

attribute [simp] run_pure

/-- The second part of a program runs with the answer and in the world of the first. -/
theorem bind_of {x : m α} {f : α → m β} {w w' : W} {a : α} (h : run x w = (a, w')) :
    run (x >>= f) w = run (f a) w' := by
  rw [run_bind, h]

/-! ## Programs without a world and programs with a state -/

instance : Runs Id Unit where
  run x _ := (x.run, ())
  run_pure _ _ := rfl
  run_bind _ _ _ := rfl

instance : Runs (StateT σ m) (σ × W) where
  run x s :=
    ((run (x.run s.1) s.2).1.1, (run (x.run s.1) s.2).1.2, (run (x.run s.1) s.2).2)
  run_pure a s := by
    have h : (pure a : StateT σ m _).run s.1 = pure (a, s.1) := rfl
    rw [h, run_pure]
  run_bind x f s := by
    have h : (x >>= f).run s.1 = x.run s.1 >>= fun p => (f p.1).run p.2 := rfl
    rw [h, run_bind]

/-- A program with a state runs as it does on its own, in the world beside the state. -/
theorem run_stateT (x : StateT σ m α) (s : σ) (w : W) :
    run x (s, w) = ((run (x.run s) w).1.1, (run (x.run s) w).1.2, (run (x.run s) w).2) := rfl

@[simp] theorem run_get (s : σ × W) : run (get : StateT σ m σ) s = (s.1, s) := by
  have h : (get : StateT σ m σ).run s.1 = pure (s.1, s.1) := rfl
  rw [run_stateT, h, run_pure]

@[simp] theorem run_set (a : σ) (s : σ × W) :
    run (set a : StateT σ m PUnit) s = (⟨⟩, a, s.2) := by
  have h : (set a : StateT σ m PUnit).run s.1 = pure (⟨⟩, a) := rfl
  rw [run_stateT, h, run_pure]

@[simp] theorem run_modify (f : σ → σ) (s : σ × W) :
    run (modify f : StateT σ m PUnit) s = (⟨⟩, f s.1, s.2) := by
  have h : (modify f : StateT σ m PUnit).run s.1 = pure (⟨⟩, f s.1) := rfl
  rw [run_stateT, h, run_pure]

@[simp] theorem run_modifyGet (f : σ → α × σ) (s : σ × W) :
    run (modifyGet f : StateT σ m α) s = ((f s.1).1, (f s.1).2, s.2) := by
  have h : (modifyGet f : StateT σ m α).run s.1 = pure (f s.1) := rfl
  rw [run_stateT, h, run_pure]

/-- A program that knows no state leaves the state as it is. -/
@[simp] theorem run_lift (x : m α) (s : σ × W) :
    run (StateT.lift x : StateT σ m α) s = ((run x s.2).1, s.1, (run x s.2).2) := by
  have h : (StateT.lift x : StateT σ m α).run s.1 = x >>= fun a => pure (a, s.1) := rfl
  rw [run_stateT, h, run_bind, run_pure]

@[simp] theorem run_monadLift (x : m α) (s : σ × W) :
    run (liftM x : StateT σ m α) s = ((run x s.2).1, s.1, (run x s.2).2) := run_lift x s

/-! ## Programs beside a record -/

/-- A program beside a record of what it is called with. -/
def noted (f : α → m β) (a : α) : StateT (List α) m β := do
  modify (· ++ [a])
  StateT.lift (f a)

/-- The record goes on by what the program is called with, and changes nothing else. -/
theorem run_noted (f : α → m β) (a : α) (seen : List α) (w : W) :
    run (noted f a) (seen, w) = ((run (f a) w).1, seen ++ [a], (run (f a) w).2) := by
  rw [noted, bind_of (run_modify _ _), run_lift]

end Runs

/-- What ends well in two steps ends well in each. -/
theorem exists_of_bind_eq_ok {ε α β : Type} {x : Except ε α} {f : α → Except ε β} {b : β}
    (h : (x >>= f) = .ok b) : ∃ a, x = .ok a ∧ f a = .ok b := by
  cases x with
  | error e => cases h
  | ok a => exact ⟨a, rfl, h⟩

/-- What ends well does not fail. -/
theorem eq_ok_iff_of_eq_error_iff {ε : Type} {x : Except ε Unit} {P : ε → Prop}
    (h : ∀ e, x = .error e ↔ P e) : x = .ok () ↔ ¬ ∃ e, P e := by
  cases x with
  | ok _ => simpa using fun e => mt (h e).mpr (by simp)
  | error e => simpa using ⟨e, (h e).mp rfl⟩

end FleetGate
