import AntHost.Command.Basic
/-!
# Search timeouts

A device counts search timeouts in steps of 2.5 seconds, and the largest count, 255, never gives
up. Durations convert by their whole seconds, which 64 bits have to hold, also ten times over.
-/

namespace AntHost

/-- A span of time in whole seconds and nanoseconds. -/
structure Duration where
  seconds : UInt64
  nanoseconds : UInt32 := 0
deriving DecidableEq, Repr

def nanosecondsPerSecond : UInt32 := 1000000000

/-- A count of seconds left the range of 64 bits. -/
inductive DurationError where
  /-- The whole seconds in the nanoseconds were added. -/
  | carry
  /-- The seconds were scaled. -/
  | scaling
deriving DecidableEq, Repr

namespace DurationError

def all : List DurationError := [carry, scaling]

def message : DurationError → String
  | carry => "overflow in Duration::new"
  | scaling => "attempt to multiply with overflow"

end DurationError

namespace Duration

/-- A duration of some seconds and nanoseconds, which may make whole seconds themselves. -/
def of (seconds : UInt64) (nanoseconds : UInt32) : Except DurationError Duration :=
  let carried := (nanoseconds / nanosecondsPerSecond).toUInt64
  if seconds.toNat + carried.toNat < UInt64.size then
    .ok ⟨seconds + carried, nanoseconds % nanosecondsPerSecond⟩
  else .error .carry

/-- Ten times the whole seconds, as long as 64 bits hold it. -/
def tenfoldSeconds (duration : Duration) : Except DurationError UInt64 :=
  if 10 * duration.seconds.toNat < UInt64.size then .ok (10 * duration.seconds)
  else .error .scaling

/-- Search timeout steps in a duration, at most 255. Tenfold seconds make one step 25. -/
def searchTimeoutSteps (duration : Duration) : Except DurationError UInt8 :=
  duration.tenfoldSeconds.map fun scaled => (min (scaled / 25) 255).toUInt8

end Duration

namespace Command

/-- The search timeout command for a duration, rounded down to whole steps. -/
def searchTimeoutOf (channel : UInt8) (duration : Duration) : Except DurationError Command :=
  duration.searchTimeoutSteps.map fun steps => .searchTimeout channel steps

end Command

end AntHost
