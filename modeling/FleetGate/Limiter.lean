import FleetGate.Connection

/-!
# Limiting the rate of calls

A limiter lets so many calls start in a window.  A window begins with its first
call.  When the calls of a window are used up, the next one waits for its end,
and a new window begins with it.

Windows are counted in nanoseconds, but a wait ends on a whole millisecond, the
first that is not before the end of the window.
-/

namespace FleetGate

/-- Where a limiter stands. -/
inductive Limiter.Window where
  /-- A window that ends at a time and has room for more calls. -/
  | room (ending : Nanos) (left : Nat)
  /-- A window that ends at a time and has no more room. -/
  | full (ending : Nanos)
deriving DecidableEq, Repr, Inhabited

/-- A limiter. -/
structure Limiter where
  /-- The limit. -/
  limit : RateLimit
  /-- The current window. -/
  window : Limiter.Window
deriving DecidableEq, Repr, Inhabited

namespace Limiter

/-- A limiter at a time in milliseconds, before its first window. -/
def start (limit : RateLimit) (now : Nat) : Limiter :=
  ⟨limit, .room (Nanos.ofMillis now) limit.calls⟩

/-- The first whole millisecond that is not before a time. -/
def nextMilli (t : Nanos) : Nat := (t + (Nanos.perMilli - 1)) / Nanos.perMilli

/-- The time in milliseconds at which a call that comes at `now` may start. -/
def startTime (now : Nat) (l : Limiter) : Nat :=
  match l.window with
  | .room .. => now
  | .full ending => max now (nextMilli ending)

/-- The window that a call at a time begins. -/
def opening (now : Nat) (l : Limiter) : Nanos × Nat :=
  (Nanos.ofMillis now + l.limit.period, l.limit.calls)

/-- The window of a call that starts at a time, with the calls that it had left. -/
def current (now : Nat) (l : Limiter) : Nanos × Nat :=
  match l.window with
  | .room ending left => if ending ≤ Nanos.ofMillis now then l.opening now else (ending, left)
  | .full _ => l.opening now

/-- The limiter after a call that starts at a time. -/
def take (now : Nat) (l : Limiter) : Limiter :=
  let (ending, left) := l.current now
  { l with window := if 1 < left then .room ending (left - 1) else .full ending }

end Limiter

end FleetGate
