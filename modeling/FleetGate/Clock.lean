/-!
# Clocks

Everything that waits does so by a clock.  Times are in milliseconds.
-/

namespace FleetGate

/-- A clock. -/
class Clock (m : Type → Type) where
  /-- The time. -/
  now : m Nat
  /-- Waits until a time, if that is to come. -/
  waitUntil : Nat → m Unit

instance {σ : Type} {m : Type → Type} [Monad m] [Clock m] : Clock (StateT σ m) where
  now := StateT.lift Clock.now
  waitUntil time := StateT.lift (Clock.waitUntil time)

end FleetGate
