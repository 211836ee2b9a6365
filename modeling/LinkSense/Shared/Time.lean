import Mathlib.Data.Int.Order.Basic

/-!
# Instants and durations

`std::time::Instant` and `std::time::Duration` as the program uses them: an instant is a
number of nanoseconds on a monotonic clock, a duration a number of nanoseconds.  Subtracting
a duration panics below the earliest instant the platform can represent.
-/

namespace LinkSense

/-- A reading of the monotonic clock, in nanoseconds. -/
abbrev Instant := Int

abbrev Duration := Nat

def fromSecs (secs : UInt64) : Duration := secs.toNat * 1000000000

def asSecs (d : Duration) : Nat := d / 1000000000

/-- `Instant::elapsed` at `now`: zero for an instant that lies ahead. -/
def elapsed (start now : Instant) : Duration := (now - start).toNat

/-- `Instant - Duration`: panics (`none`) below the platform's earliest instant. -/
def instantSub (earliest now : Instant) (d : Duration) : Option Instant :=
  if earliest ≤ now - d then some (now - d) else none

theorem instantSub_eq_some_iff (earliest now : Instant) (d : Duration) (c : Instant) :
    instantSub earliest now d = some c ↔ earliest ≤ now - d ∧ c = now - d := by
  unfold instantSub
  split
  · next h => simp [h, eq_comm]
  · next h => simp [h]

end LinkSense
