import FleetGate.Numeric.Binary

/-!
# Growing delays

After a failure the next attempt waits, and every further failure waits longer,
up to a limit.  A delay is a count of nanoseconds.  The next delay is computed
in seconds as 64-bit floating point: the current delay times a multiplier, or
the limit if that is less.
-/

namespace FleetGate

open Numeric

/-- A length of time in nanoseconds. -/
abbrev Nanos := Nat

namespace Nanos

/-- Nanoseconds of a second. -/
def perSecond : Nat := 1000000000

/-- Nanoseconds of a millisecond. -/
def perMilli : Nat := 1000000

/-- The length in seconds: the whole seconds plus the remaining nanoseconds over
their number in a second. -/
def toSeconds (n : Nanos) : Binary :=
  let whole := binary64.ofNat (n / perSecond)
  let rest := (binary64.ofNat (n % perSecond)).div binary64 (binary64.ofNat perSecond)
  whole.addSizes binary64 rest

/-- The nearest length of a number of seconds.  `none` for a number below zero,
one that is not finite, and one whose seconds do not fit 64 bits. -/
def ofSeconds? : Binary → Option Nanos
  | .finite negative m e =>
      if negative && m != 0 then none
      else
        let (num, den) := Binary.ratio m e
        let n := roundDiv (num * perSecond) den
        if n < perSecond <<< 64 then some n else none
  | _ => none

/-- Milliseconds as a length of time. -/
def ofMillis (ms : Nat) : Nanos := ms * perMilli

end Nanos

/-- A growing delay. -/
structure Backoff where
  /-- The first delay. -/
  initial : Nanos
  /-- The limit. -/
  limit : Nanos
  /-- The growth from one delay to the next. -/
  multiplier : Binary
  /-- The next delay. -/
  current : Nanos
deriving DecidableEq, Repr, Inhabited

namespace Backoff

/-- A delay that has not grown yet. -/
def start (initial limit : Nanos) (multiplier : Binary) : Backoff :=
  ⟨initial, limit, multiplier, initial⟩

/-- From one second, doubling, up to five minutes. -/
def standard : Backoff :=
  start Nanos.perSecond (300 * Nanos.perSecond) (binary64.ofNat 2)

/-- The delay to wait now, and the state in which it has grown.  `none` if the
grown delay is no length of time. -/
def next (b : Backoff) : Option (Nanos × Backoff) :=
  let grown := (b.current.toSeconds.mul binary64 b.multiplier).min b.limit.toSeconds
  (Nanos.ofSeconds? grown).map fun n => (b.current, { b with current := n })

/-- Back to the first delay. -/
def reset (b : Backoff) : Backoff := { b with current := b.initial }

end Backoff

end FleetGate
