/-!
# The clock

Instants and durations are counted in nanoseconds, instants from the start of the clock. The clock
keeps whole seconds in a signed word of 64 bits, so there are sums that it cannot hold; whoever asks
for one panics.
-/

namespace AntHost

/-- The first instant that the clock cannot hold. -/
def clockEnd : Nat := UInt64.size / 2 * 1000000000

/-- The panic of a thread that asked for an instant the clock cannot hold. -/
structure ClockOverflow where
deriving DecidableEq, Repr

def ClockOverflow.message (_ : ClockOverflow) : String :=
  "overflow when adding duration to instant"

/-- The instant a duration after another one. -/
def instantAfter (start duration : Nat) : Except ClockOverflow Nat :=
  if start + duration < clockEnd then .ok (start + duration) else .error {}

theorem instantAfter_eq_ok_iff {start duration instant : Nat} :
    instantAfter start duration = .ok instant ↔
      start + duration < clockEnd ∧ instant = start + duration := by
  unfold instantAfter
  split
  next hfits => simp [hfits, eq_comm]
  next hover => simp [hover]

theorem instantAfter_eq_error_iff {start duration : Nat} {overflow : ClockOverflow} :
    instantAfter start duration = .error overflow ↔ clockEnd ≤ start + duration := by
  unfold instantAfter
  split
  next hfits => simp [Nat.not_le.mpr hfits]
  next hover => simp [Nat.not_lt.mp hover]

theorem instantAfter_congr {start duration other rest : Nat}
    (hsum : start + duration = other + rest) :
    instantAfter start duration = instantAfter other rest := by
  unfold instantAfter
  rw [hsum]

end AntHost
