import Mathlib.Data.UInt
import AntHost.Command.SearchTimeout
import AntHost.Frame.Encode
/-!
# Search timeouts and exact time

How the count of a search timeout relates to the time it is made of. Steps of 2.5 seconds end at
whole and at half seconds in turn. The count looks at whole seconds only, so it misses a step that
is completed by a half second and else is the exact one; it has no answer where tenfold seconds do
not fit 64 bits.
-/

namespace AntHost

namespace Duration

/-- The nanoseconds of a step. -/
def nanosecondsPerStep : Nat := 2500000000

/-- The largest count, which never gives up. -/
def endlessSteps : Nat := 255

def inNanoseconds (duration : Duration) : Nat :=
  duration.seconds.toNat * nanosecondsPerSecond.toNat + duration.nanoseconds.toNat

/-- The steps that are over when the duration is, at most as many as can be counted. -/
def exactSteps (duration : Duration) : Nat :=
  min (duration.inNanoseconds / nanosecondsPerStep) endlessSteps

/-- A half second completes the last of the steps that are counted. -/
def EndsOnHalf (duration : Duration) : Prop :=
  duration.seconds.toNat % 5 = 2 ∧ 500000000 ≤ duration.nanoseconds.toNat ∧
    duration.seconds.toNat < 640

instance (duration : Duration) : Decidable duration.EndsOnHalf :=
  inferInstanceAs (Decidable (_ ∧ _ ∧ _))

/-- The nanoseconds make no whole second. -/
def Carried (duration : Duration) : Prop := duration.nanoseconds < nanosecondsPerSecond

instance (duration : Duration) : Decidable duration.Carried :=
  inferInstanceAs (Decidable (_ < _))

theorem Carried.nanoseconds_lt {duration : Duration} (hcarried : duration.Carried) :
    duration.nanoseconds.toNat < 1000000000 :=
  UInt32.lt_iff_toNat_lt.mp hcarried

theorem inNanoseconds_eq (duration : Duration) :
    duration.inNanoseconds =
      1000000000 * duration.seconds.toNat + duration.nanoseconds.toNat := by
  rw [Nat.mul_comm]
  rfl

theorem seconds_le_of_le {duration later : Duration} (hlater : later.Carried)
    (hle : duration.inNanoseconds ≤ later.inNanoseconds) :
    duration.seconds.toNat ≤ later.seconds.toNat := by
  have hbelow := hlater.nanoseconds_lt
  rw [inNanoseconds_eq, inNanoseconds_eq] at hle
  omega

/-- Counted without an end, the steps are those in the whole seconds, and one more where a half
second completes the last. -/
theorem steps_eq {seconds nanoseconds : Nat} (hbelow : nanoseconds < 1000000000) :
    (1000000000 * seconds + nanoseconds) / nanosecondsPerStep =
      2 * seconds / 5 + if seconds % 5 = 2 ∧ 500000000 ≤ nanoseconds then 1 else 0 := by
  -- five seconds are two steps, so only what is left of them has to be looked at
  have hwhole : 1000000000 * seconds + nanoseconds =
      1000000000 * (seconds % 5) + nanoseconds + nanosecondsPerStep * (2 * (seconds / 5)) := by
    rw [nanosecondsPerStep]
    omega
  have hrest : seconds % 5 < 5 := Nat.mod_lt _ (by decide)
  have htwice : 2 * seconds / 5 = 2 * (seconds % 5) / 5 + 2 * (seconds / 5) := by omega
  rw [hwhole, Nat.add_mul_div_left _ _ (by decide), htwice, nanosecondsPerStep]
  generalize seconds % 5 = rest at hrest ⊢
  split <;> omega

theorem exactSteps_eq {duration : Duration} (hcarried : duration.Carried) :
    duration.exactSteps = min (2 * duration.seconds.toNat / 5) endlessSteps +
      if duration.EndsOnHalf then 1 else 0 := by
  rw [exactSteps, inNanoseconds_eq, steps_eq hcarried.nanoseconds_lt, endlessSteps]
  by_cases hhalf : duration.EndsOnHalf
  · obtain ⟨hrest, hnanos, hcounted⟩ := id hhalf
    rw [if_pos hhalf, if_pos ⟨hrest, hnanos⟩]
    omega
  · rw [if_neg hhalf]
    rw [EndsOnHalf] at hhalf
    split <;> omega

/-- What is counted where tenfold seconds fit. -/
theorem searchTimeoutSteps_of_fits {duration : Duration}
    (hfits : 10 * duration.seconds.toNat < UInt64.size) :
    ∃ steps, duration.searchTimeoutSteps = .ok steps ∧
      steps.toNat = min (2 * duration.seconds.toNat / 5) endlessSteps := by
  refine ⟨_, by rw [searchTimeoutSteps, tenfoldSeconds, if_pos hfits]; rfl, ?_⟩
  have hscaled : (10 * duration.seconds).toNat = 10 * duration.seconds.toNat := by
    rw [UInt64.toNat_mul]
    exact Nat.mod_eq_of_lt hfits
  have hreduced : 10 * duration.seconds.toNat / 25 = 2 * duration.seconds.toNat / 5 := by omega
  have hbyte : min (2 * duration.seconds.toNat / 5) endlessSteps < 2 ^ 8 :=
    Nat.lt_of_le_of_lt (Nat.min_le_right ..) (by decide)
  rw [UInt64.toNat_toUInt8, UInt64.toNat_min, UInt64.toNat_div, hscaled]
  change min (10 * duration.seconds.toNat / 25) endlessSteps % 2 ^ 8 = _
  rw [hreduced, Nat.mod_eq_of_lt hbyte]

theorem searchTimeoutSteps_of_exceeds {duration : Duration}
    (hexceeds : UInt64.size ≤ 10 * duration.seconds.toNat) :
    duration.searchTimeoutSteps = .error .scaling := by
  rw [searchTimeoutSteps, tenfoldSeconds, if_neg (Nat.not_lt.mpr hexceeds)]
  rfl

/-- A longer time makes no smaller count. -/
theorem searchTimeoutSteps_mono {duration later : Duration} (hlater : later.Carried)
    (hle : duration.inNanoseconds ≤ later.inNanoseconds) {steps laterSteps : UInt8}
    (hsteps : duration.searchTimeoutSteps = .ok steps)
    (hlaterSteps : later.searchTimeoutSteps = .ok laterSteps) : steps ≤ laterSteps := by
  have hseconds := seconds_le_of_le hlater hle
  rcases Nat.lt_or_ge (10 * later.seconds.toNat) UInt64.size with hfits | hexceeds
  · have hboth : 10 * duration.seconds.toNat < UInt64.size := by omega
    obtain ⟨_, hcounted, hcount⟩ := searchTimeoutSteps_of_fits hboth
    obtain ⟨_, hlaterCounted, hlaterCount⟩ := searchTimeoutSteps_of_fits hfits
    cases hsteps.symm.trans hcounted
    cases hlaterSteps.symm.trans hlaterCounted
    rw [UInt8.le_iff_toNat_le, hcount, hlaterCount]
    omega
  · rw [searchTimeoutSteps_of_exceeds hexceeds] at hlaterSteps
    cases hlaterSteps

/-- A duration whose tenfold seconds do not fit 64 bits has no count. Every other has: the exact
one, less one where a half second completes the last step. The count never falls as time grows, is
endless from 638 seconds on, and is what the command for the duration puts on the wire. -/
theorem searchTimeoutSteps_counts_whole_seconds (duration : Duration)
    (hcarried : duration.Carried) (channel : UInt8) :
    if UInt64.size ≤ 10 * duration.seconds.toNat then
      duration.searchTimeoutSteps = .error .scaling ∧
        Command.searchTimeoutOf channel duration = .error .scaling
    else
      ∃ steps, duration.searchTimeoutSteps = .ok steps ∧
        steps.toNat + (if duration.EndsOnHalf then 1 else 0) = duration.exactSteps ∧
        (steps.toNat = endlessSteps ↔ 638 ≤ duration.seconds.toNat) ∧
        (∀ (later : Duration) laterSteps, later.Carried →
          duration.inNanoseconds ≤ later.inNanoseconds →
          later.searchTimeoutSteps = .ok laterSteps → steps ≤ laterSteps) ∧
        Command.searchTimeoutOf channel duration = .ok (.searchTimeout channel steps) ∧
        ∀ limit : PayloadLimit, 2 ≤ limit.bytes →
          commandFrame limit (.searchTimeout channel steps) =
            .ok (frameBytes MessageId.searchTimeout.value [channel, steps]) := by
  split
  next hexceeds =>
    have hnone := searchTimeoutSteps_of_exceeds hexceeds
    exact ⟨hnone, by rw [Command.searchTimeoutOf, hnone]; rfl⟩
  next hfits =>
    obtain ⟨steps, hsteps, hcount⟩ := searchTimeoutSteps_of_fits (Nat.not_le.mp hfits)
    refine ⟨steps, hsteps, ?_, ?_, ?_, ?_, ?_⟩
    · rw [hcount, exactSteps_eq hcarried]
    · rw [hcount, endlessSteps]
      omega
    · exact fun later laterSteps hlater hle => searchTimeoutSteps_mono hlater hle hsteps
    · rw [Command.searchTimeoutOf, hsteps]
      rfl
    · intro limit hlimit
      have hpayload : (Command.searchTimeout channel steps).payload.length = 2 := rfl
      rw [commandFrame_eq, hpayload, if_neg (Nat.not_lt.mpr hlimit)]
      rfl

/-- A half second that completes the first step, and one that completes none. -/
theorem searchTimeoutSteps_counts_whole_seconds_of_half :
    let missed : Duration := ⟨2, 500000000⟩
    let counted : Duration := ⟨4, 999999999⟩
    missed.Carried ∧ counted.Carried ∧ missed.EndsOnHalf ∧ ¬ counted.EndsOnHalf ∧
      (∃ steps, missed.searchTimeoutSteps = .ok steps ∧ steps.toNat + 1 = missed.exactSteps) ∧
      ∃ steps, counted.searchTimeoutSteps = .ok steps ∧ steps.toNat = counted.exactSteps := by
  intro missed counted
  have hmissed : missed.Carried := by decide
  have hcounted : counted.Carried := by decide
  obtain ⟨first, hfirst, hone, -⟩ := searchTimeoutSteps_counts_whole_seconds missed hmissed 0
  obtain ⟨second, hsecond, hexact, -⟩ := searchTimeoutSteps_counts_whole_seconds counted hcounted 0
  exact ⟨hmissed, hcounted, by decide, by decide, ⟨first, hfirst, hone⟩, second, hsecond, hexact⟩

/-- Not every duration has a count, not every count is exact, and 637.5 seconds do not make the
endless one. -/
theorem not_forall_exactSteps :
    (¬ ∀ duration : Duration, duration.Carried →
        ∃ steps, duration.searchTimeoutSteps = .ok steps) ∧
      (¬ ∀ (duration : Duration) (steps : UInt8), duration.Carried →
        duration.searchTimeoutSteps = .ok steps → steps.toNat = duration.exactSteps) ∧
      ¬ ∀ (duration : Duration) (steps : UInt8), duration.Carried →
        duration.searchTimeoutSteps = .ok steps →
        (steps.toNat = endlessSteps ↔ 637500000000 ≤ duration.inNanoseconds) := by
  refine ⟨fun hcounts => ?_, fun hexact => ?_, fun hendless => ?_⟩
  · obtain ⟨steps, hsteps⟩ := hcounts ⟨18446744073709551615, 0⟩ (by decide)
    rw [searchTimeoutSteps_of_exceeds (by decide)] at hsteps
    cases hsteps
  · exact absurd (hexact ⟨2, 500000000⟩ 0 (by decide) rfl) (by decide)
  · exact absurd (hendless ⟨637, 500000000⟩ 254 (by decide) rfl) (by decide)

end Duration

end AntHost
