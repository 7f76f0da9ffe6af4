import AntHost.Frame.Basic
import AntHost.Transport.Error
/-!
# Scripted devices

A device that answers every frame by the first rule that fits. A rule may refuse the frame; else it
sends replies, changes the cancel flag, and breaks the link once everything sent has been read.
-/

namespace AntHost.Bench

/-- A byte of a scripted reply, which may come from the frame that is answered. -/
inductive ReplyByte where
  | literal (byte : UInt8)
  | frameId
  /-- The channel in the first payload byte. -/
  | channel
  | payloadByte (index : Nat)
deriving DecidableEq, Repr

/-- Something a device sends. -/
inductive ScriptedReply where
  /-- A frame with a right checksum. -/
  | framed (id : ReplyByte) (payload : List ReplyByte)
  | raw (bytes : List UInt8)
deriving DecidableEq, Repr

/-- What a device does with frames of one kind. -/
structure Rule where
  /-- How often the rule still applies, if there is a limit. -/
  uses : Option Nat := none
  id : Option UInt8 := none
  /-- The bits of the first payload byte that count. -/
  mask : UInt8 := 0
  expected : UInt8 := 0
  failWrite : Option TransportError := none
  replies : List ScriptedReply := []
  cancel : Option Bool := none
  failRead : Option TransportError := none
deriving DecidableEq, Repr

def idOf (frame : List UInt8) : UInt8 := frame.getD 2 0

def payloadOf (frame : List UInt8) : List UInt8 := (frame.drop headerSize).dropLast

/-- The byte a scripted byte stands for in an answer to a frame. -/
def ReplyByte.value (frame : List UInt8) : ReplyByte → UInt8
  | literal byte => byte
  | frameId => idOf frame
  | channel => (payloadOf frame).getD 0 0 &&& channelMask
  | payloadByte index => (payloadOf frame).getD index 0

def ScriptedReply.bytes (frame : List UInt8) : ScriptedReply → List UInt8
  | framed id payload => frameBytes (id.value frame) (payload.map (·.value frame))
  | raw bytes => bytes

def Rule.fits (rule : Rule) (frame : List UInt8) : Bool :=
  rule.uses != some 0 && rule.id.all (· == idOf frame) &&
    ((payloadOf frame).getD 0 0 &&& rule.mask) == rule.expected

def Rule.spend (rule : Rule) : Rule := { rule with uses := rule.uses.map (· - 1) }

/-- The first rule that fits a frame, and the rules once it is spent. -/
def firstRule (frame : List UInt8) : List Rule → Option (Rule × List Rule)
  | [] => none
  | rule :: rest =>
      if rule.fits frame then some (rule, rule.spend :: rest)
      else (firstRule frame rest).map fun (found, rules) => (found, rule :: rules)

/-- A device and what it has sent that nobody has read. -/
structure Device where
  rules : List Rule := []
  inbound : List UInt8 := []
  /-- What the read after the last inbound byte fails with. -/
  failRead : Option TransportError := none
  /-- The most bytes of one read, if there is a limit besides the room. -/
  readSize : Option Nat := none
  closed : Bool := false
deriving Repr

/-- What a read of a device finds. -/
inductive Arrival where
  | bytes (bytes : List UInt8)
  | failure (error : TransportError)
  | quiet
deriving DecidableEq, Repr

namespace Device

/-- Receives a frame. Answers whether the write succeeds, and a change of the cancel flag. -/
def receive (device : Device) (frame : List UInt8) :
    Except TransportError Unit × Option Bool × Device :=
  if device.closed then (.error .closed, none, device)
  else
    match firstRule frame device.rules with
    | none => (.ok (), none, device)
    | some (rule, rules) =>
        match rule.failWrite with
        | some error => (.error error, none, { device with rules })
        | none =>
            (.ok (), rule.cancel,
              { device with
                rules
                inbound := device.inbound ++ rule.replies.flatMap (·.bytes frame)
                failRead := rule.failRead.or device.failRead })

/-- Writes of one frame after which no rule with a limit applies to it any more. -/
def attempts (device : Device) : Nat :=
  (device.rules.filterMap (·.uses)).foldl (· + ·) 1

/-- Is read up to `room` bytes. -/
def read (device : Device) (room : Nat) : Arrival × Device :=
  if device.inbound = [] then
    match device.failRead with
    | some error => (.failure error, { device with failRead := none })
    | none => (.quiet, device)
  else
    let size := max 1 (min room (device.readSize.getD room))
    (.bytes (device.inbound.take size), { device with inbound := device.inbound.drop size })

end Device

end AntHost.Bench
