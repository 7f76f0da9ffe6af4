import AntHost.Message.EventCode
import AntHost.Wait
/-!
# Transfer monitoring

A device runs one acknowledged data transfer at a time. The monitor admits one transfer, follows
its channel's events until one of them decides it, and is free again once its holder lets go.
-/

namespace AntHost

/-- What a transfer waits for. -/
inductive TransferKind where
  /-- The first transmission slot after the transfer began. -/
  | broadcast
  | acknowledged
  | burst
deriving DecidableEq, Repr

/-- How a transfer ended. -/
inductive TransferOutcome where
  | completed
  | failed
deriving DecidableEq, Repr

def TransferOutcome.name : TransferOutcome → String
  | completed => "Completed"
  | failed => "Failed"

/-- What an event code decides for a transfer of this kind. -/
def TransferKind.decides (kind : TransferKind) (code : UInt8) : Option TransferOutcome :=
  match kind, EventCode.ofByte? code with
  | .broadcast, some .tx => some .completed
  | .broadcast, _ => none
  | _, some .transferTxCompleted => some .completed
  | _, some .transferTxFailed => some .failed
  | _, _ => none

/-- The one transfer a session runs at a time. Channel and outcome of a finished transfer stay
until the next one begins. -/
structure TransferMonitor where
  busy : Bool := false
  channel : UInt8 := 0
  kind : Option TransferKind := none
  /-- Packets still to be handed to the device. -/
  outstanding : Nat := 0
  outcome : Option TransferOutcome := none
  closed : Bool := false
deriving DecidableEq, Repr

namespace TransferMonitor

/-- What an attempt to begin finds: that the monitor is closed, or free and now taken, or nothing
while it is busy. -/
def tryBegin (monitor : TransferMonitor) (channel : UInt8) (kind : TransferKind) (packets : Nat) :
    Option (Except WaitError Unit) × TransferMonitor :=
  if monitor.closed then (some (.error .closed), monitor)
  else if monitor.busy then (none, monitor)
  else
    (some (.ok ()),
      { monitor with
        busy := true, channel, kind := some kind, outstanding := packets, outcome := none })

/-- Follows a channel event. The first deciding event on the transfer's channel is its outcome. -/
def onEvent (monitor : TransferMonitor) (channel code : UInt8) : TransferMonitor :=
  match monitor.kind with
  | none => monitor
  | some kind =>
      if monitor.channel = channel ∧ monitor.outcome = none then
        match kind.decides code with
        | some outcome => { monitor with outstanding := 0, outcome := some outcome }
        | none => monitor
      else monitor

def packetSent (monitor : TransferMonitor) : TransferMonitor :=
  { monitor with outstanding := monitor.outstanding - 1 }

/-- Whether the device reported that the transfer failed. -/
def aborted (monitor : TransferMonitor) : Bool := monitor.outcome = some .failed

/-- What the holder of a transfer finds when it looks for the outcome. -/
def look (monitor : TransferMonitor) : Option (Except WaitError TransferOutcome) :=
  match monitor.outcome with
  | some outcome => some (.ok outcome)
  | none => if monitor.closed then some (.error .closed) else none

/-- The holder lets go of its transfer. -/
def release (monitor : TransferMonitor) : TransferMonitor :=
  { monitor with busy := false, kind := none, outstanding := 0 }

/-- Ends every wait and admits no further transfer. -/
def close (monitor : TransferMonitor) : TransferMonitor := { monitor with closed := true }

/-- An attempt to begin that starts now and during which nothing else happens. -/
def begin (monitor : TransferMonitor) (channel : UInt8) (kind : TransferKind) (packets : Nat)
    (policy : WaitPolicy) (raised : Bool) (now : Nat) :
    Except ClockOverflow (Option (Except WaitError Unit)) × TransferMonitor :=
  policy.alone raised now (·.tryBegin channel kind packets) monitor

/-- A wait for the outcome that starts now and during which nothing else happens. -/
def wait (monitor : TransferMonitor) (policy : WaitPolicy) (raised : Bool) (now : Nat) :
    Except ClockOverflow (Option (Except WaitError TransferOutcome)) :=
  (policy.alone raised now (fun monitor => (monitor.look, monitor)) monitor).1

end TransferMonitor

end AntHost
