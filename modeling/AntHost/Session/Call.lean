import AntHost.Command.Burst
import AntHost.Frame.Encode
import AntHost.Session.Config
import AntHost.Session.Program
/-!
# Session calls

Every call a host makes on a session, as a program. Calls without a timeout only write; calls with
one register what they expect, write, and wait. Whatever a call registers or takes hold of, it
gives up on every way out.
-/

namespace AntHost

/-- The answer of a call that succeeded. -/
inductive Reply where
  | done
  | message (message : Message)
deriving DecidableEq, Repr

namespace Action

/-- Writes a frame, unless the session is closed or its router no longer runs. -/
def writeFrame (frame : List UInt8) : Action Unit := do
  let open? : Bool ← Program.single .mayWrite
  if open? then
    let written : Except TransportError Unit ← Program.single (.write frame)
    match written with
    | .ok () => pure ()
    | .error error => throw (.transport error)
  else throw .closed

/-- Writes a frame that may have failed to come about. -/
def writeFramed (frame : Except FramingError (List UInt8)) : Action Unit :=
  match frame with
  | .ok frame => writeFrame frame
  | .error error => throw (.framing error)

def sendRaw (config : Config) (id : UInt8) (payload : List UInt8) : Action Unit :=
  writeFramed (rawFrame config.limit id payload)

def sendCommand (config : Config) (command : Command) : Action Unit :=
  writeFramed (commandFrame config.limit command)

/-- The policy of a wait that starts now. -/
def policyFor (config : Config) (timeout : Nat) : Action WaitPolicy := do
  let watchesCancel : Bool ← Program.single .cancelInstalled
  return ⟨timeout, watchesCancel, config.cancelPollInterval⟩

def clock : Action Nat := Program.single .now

/-- What is left of a policy whose time started at `start`. -/
def remainingSince (policy : WaitPolicy) (start : Nat) : Action WaitPolicy := do
  let later ← clock
  ofWait (policy.remaining (later - start))

def register (messageId : UInt8) (channel : Option UInt8) : Action Ticket :=
  Program.single (.register messageId channel)

/-- Waits for the response of a ticket, or of a second one. -/
def awaitResponse (first : Ticket) (second : Option Ticket) (policy : WaitPolicy) :
    Action Message := do
  let start ← clock
  let deadline ← deadlineFrom policy start
  let result : Except WaitError Message ←
    Program.single (.awaitResponse first second policy deadline)
  ofWait result

/-- Accepts a response whose code is zero and refuses any other. -/
def checkResponse (response : Message) : Action Unit :=
  if response.byteAt 2 = EventCode.responseNoError.value then pure ()
  else throw (.rejected (response.byteAt 1) (response.byteAt 2))

/-- Runs an action while a response is expected. -/
def expecting {α : Type} (messageId : UInt8) (channel : Option UInt8) (body : Ticket → Action α) :
    Action α := do
  let ticket ← register messageId channel
  (body ticket).andLast (Program.single (.unregister ticket))

/-- Writes a command and waits for the device to accept it. -/
def confirmCommand (config : Config) (command : Command) (timeout : Nat) : Action Unit := do
  let response ← expecting command.messageId.value command.channel? fun ticket => do
    sendCommand config command
    let policy ← policyFor config timeout
    awaitResponse ticket none policy
  checkResponse response

/-- Resets the device and waits for its startup message. -/
def confirmReset (config : Config) (timeout : Nat) : Action Message :=
  expecting MessageId.startupMessage.value none fun ticket => do
    sendCommand config .resetSystem
    let policy ← policyFor config timeout
    awaitResponse ticket none policy

/-- The channel an answer to a request must come from, if its payload starts with a channel. -/
def requestScope (channel messageId : UInt8) : Option UInt8 :=
  if (MessageId.ofByte? messageId).any MessageId.isChannelScoped then some channel else none

/-- Whether a message that answered a request or its refusal is the answer itself. -/
def isAnswer (messageId : UInt8) (message : Message) : Bool :=
  message.id != MessageId.channelEvent.value || messageId == MessageId.channelEvent.value

/-- Asks the device for a message and waits for it, or for the refusal of the request. After an
acceptance the wait goes on for the time that is left. -/
def requestMessage (config : Config) (channel messageId : UInt8) (timeout : Nat) :
    Action Message :=
  expecting messageId (requestScope channel messageId) fun pending => do
    let (message, policy, start) ←
      expecting MessageId.requestMessage.value (some channel) fun refusal => do
        sendCommand config (.requestMessage channel messageId)
        let start ← clock
        let policy ← policyFor config timeout
        let message ← awaitResponse pending (some refusal) policy
        if isAnswer messageId message then pure ()
        else checkResponse message
        return (message, policy, start)
    if isAnswer messageId message then return message
    else
      let left ← remainingSince policy start
      awaitResponse pending none left

/-- Runs an action while the transfer monitor is held. -/
def transferring {α : Type} (channel : UInt8) (kind : TransferKind) (packets : Nat)
    (policy : WaitPolicy) (body : Action α) : Action α := do
  let start ← clock
  let deadline ← deadlineFrom policy start
  let begun : Except WaitError Unit ←
    Program.single (.beginTransfer channel kind packets policy deadline)
  ofWait begun
  body.andLast (Program.single .releaseTransfer)

def packetSent : Action Unit := Program.single .packetSent

/-- Waits for the outcome of the transfer held. -/
def finishTransfer (channel : UInt8) (policy : WaitPolicy) : Action Unit := do
  let start ← clock
  let deadline ← deadlineFrom policy start
  let result : Except WaitError TransferOutcome ←
    Program.single (.awaitOutcome policy deadline)
  let outcome ← ofWait result
  match outcome with
  | .completed => pure ()
  | .failed => throw (.transferFailed channel)

/-- Writes one data packet and waits until its transfer is decided. -/
def confirmData (config : Config) (channel : UInt8) (kind : TransferKind) (command : Command)
    (timeout : Nat) : Action Unit := do
  let start ← clock
  let policy ← policyFor config timeout
  transferring channel kind 1 policy do
    sendCommand config command
    packetSent
    let left ← remainingSince policy start
    finishTransfer channel left

/-- Writes the packets of a burst one by one, looking before each for a failed transfer, the cancel
flag and the time that is left since `start`. -/
def writePackets (config : Config) (channel : UInt8) (policy : WaitPolicy) (start : Nat) :
    List BurstPacket → Action Unit
  | [] => pure ()
  | packet :: rest => do
      let aborted : Bool ← Program.single .transferAborted
      if aborted then throw (.transferFailed channel)
      let raised : Bool ← Program.single .cancelRaised
      if policy.isCancelled raised then throw .cancelled
      let _ ← remainingSince policy start
      sendCommand config packet.command
      packetSent
      writePackets config channel policy start rest

/-- Writes the packets of a burst under a policy whose time starts now. -/
def writeBurst (config : Config) (channel : UInt8) (policy : WaitPolicy)
    (packets : List BurstPacket) : Action Unit := do
  let start ← clock
  writePackets config channel policy start packets

/-- Writes a burst without waiting for its outcome. -/
def sendBurst (config : Config) (channel : UInt8) (data : List UInt8) : Action Unit := do
  let packets := BurstPacket.split channel data
  let policy ← policyFor config 0
  transferring channel .burst packets.length policy do
    writeBurst config channel policy packets

/-- Writes a burst and waits until the whole transfer is acknowledged. An empty burst is. -/
def confirmBurst (config : Config) (channel : UInt8) (data : List UInt8) (timeout : Nat) :
    Action Unit :=
  match BurstPacket.split channel data with
  | [] => pure ()
  | first :: rest => do
      let start ← clock
      let policy ← policyFor config timeout
      transferring channel .burst (first :: rest).length policy do
        let whole ← remainingSince policy start
        writeBurst config channel whole (first :: rest)
        let left ← remainingSince policy start
        finishTransfer channel left

/-- Stops the router and closes the link. Only the first call does anything; a handler cannot
close the session that calls it. -/
def closeSession (onRouter : Bool) : Action Unit := do
  if onRouter then throw .closeFromRouter
  let already : Bool ← Program.single .swapClosed
  if already then return ()
  Program.single .raiseStop
  Program.single .markStopping
  Program.single .awaitStopped
  Program.single .joinRouter
  Program.single .closeTransport

end Action

/-- A call on a session. A timeout in nanoseconds makes it wait; zero waits forever. -/
inductive Call where
  | command (body : Command) (timeout : Option Nat)
  | raw (id : UInt8) (payload : List UInt8)
  | reset (timeout : Option Nat)
  | request (channel messageId : UInt8) (timeout : Option Nat)
  | broadcast (channel : UInt8) (data : Octets) (timeout : Option Nat)
  | acknowledged (channel : UInt8) (data : Octets) (timeout : Option Nat)
  | burst (channel : UInt8) (data : List UInt8) (timeout : Option Nat)
  | close
deriving DecidableEq, Repr

namespace Call

/-- The answer of an action that has nothing to say. -/
def acknowledge (action : Action Unit) : Action Reply := do
  action
  return .done

/-- The answer of an action that fetches a message. -/
def fetch (action : Action Message) : Action Reply := do
  let message ← action
  return .message message

/-- What a call does, on the router's thread or on another one. -/
def action (config : Config) (onRouter : Bool) : Call → Action Reply
  | .command body none => acknowledge (.sendCommand config body)
  | .command body (some timeout) => acknowledge (.confirmCommand config body timeout)
  | raw id payload => acknowledge (.sendRaw config id payload)
  | reset none => acknowledge (.sendCommand config .resetSystem)
  | reset (some timeout) => fetch (.confirmReset config timeout)
  | request channel messageId none =>
      acknowledge (.sendCommand config (.requestMessage channel messageId))
  | request channel messageId (some timeout) =>
      fetch (.requestMessage config channel messageId timeout)
  | broadcast channel data none => acknowledge (.sendCommand config (.broadcastData channel data))
  | broadcast channel data (some timeout) =>
      acknowledge (.confirmData config channel .broadcast (.broadcastData channel data) timeout)
  | acknowledged channel data none =>
      acknowledge (.sendCommand config (.acknowledgedData channel data))
  | acknowledged channel data (some timeout) =>
      acknowledge
        (.confirmData config channel .acknowledged (.acknowledgedData channel data) timeout)
  | burst channel data none => acknowledge (.sendBurst config channel data)
  | burst channel data (some timeout) => acknowledge (.confirmBurst config channel data timeout)
  | close => acknowledge (.closeSession onRouter)

def program (config : Config) (onRouter : Bool) (call : Call) :
    Program (Except CallError Reply) :=
  (call.action config onRouter).run

end Call

end AntHost
