/-!
# Waiting for things to settle

A debouncer turns a burst of triggers into one firing, a fixed window after the
last of them.  Times are in milliseconds on one clock.
-/

namespace FleetGate

/-- A debouncer and the time at which it is due to fire, if it is. -/
structure Debouncer where
  /-- From a trigger to the firing. -/
  window : Nat
  /-- The time of the firing. -/
  deadline? : Option Nat
deriving DecidableEq, Repr, Inhabited

namespace Debouncer

/-- A debouncer that nothing has triggered. -/
def start (window : Nat) : Debouncer := ⟨window, none⟩

/-- A trigger at a time puts the firing off to one window later. -/
def trigger (now : Nat) (d : Debouncer) : Debouncer := { d with deadline? := some (now + d.window) }

/-- Forgets the firing. -/
def cancel (d : Debouncer) : Debouncer := { d with deadline? := none }

/-- Whether a firing is to come. -/
def isPending (d : Debouncer) : Bool := d.deadline?.isSome

/-- Fires if the time has come, and forgets the firing then. -/
def take (now : Nat) (d : Debouncer) : Bool × Debouncer :=
  match d.deadline? with
  | some deadline => if deadline ≤ now then (true, d.cancel) else (false, d)
  | none => (false, d)

/-- The time at which a wait of at most `limit` from `now` is over, and whether
the firing came first.  The firing wins a tie. -/
def wait (now limit : Nat) (d : Debouncer) : Bool × Nat :=
  match d.deadline? with
  | some deadline =>
      if deadline ≤ now + limit then (true, max now deadline) else (false, now + limit)
  | none => (false, now + limit)

end Debouncer

end FleetGate
