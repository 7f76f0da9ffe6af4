import AntHost.Bench.Threads
import AntHost.Session.Router
/-!
# The router on the bench

The router runs whenever a frame was written or the device spoke, until nothing is left to read.
Handlers run on its thread: nothing is routed until they return, though other threads go on while
a handler's call waits.
-/

namespace AntHost.Bench

namespace Rig

/-! ## Handlers -/

/-- Answers a request on the router's thread. -/
def answerInline (rig : Rig) (request : Request) : Answer × Rig :=
  if !rig.held then (.noSession, rig)
  else
    match request with
    | .call call =>
        let (result, rig) := rig.runInline (call.program rig.session.config true)
        (result.elim .stalled .call, rig)
    | request => rig.answerLocally request

/-- Drops the host's handle on the router's thread. If nobody else uses the session, the router is
told to stop. -/
def dropInline (rig : Rig) : Rig :=
  let rig := { rig with held := false }
  if rig.inUse then rig
  else { rig with session := rig.session.requestStop }

/-- Does what a handler does. Answers whether the router survives it; it does not survive a call
that panics. -/
def react (rig : Rig) : List Act → Bool × Rig
  | [] => (true, rig)
  | .request request :: rest =>
      match rig.answerInline request with
      | (.call (.error .panicked), rig) => (false, rig)
      | (answer, rig) => (rig.note (.handlerAnswer answer)).react rest
  | .setCancel raised :: rest => { rig with session.cancelRaised := raised }.react rest
  | .crash :: _ => (false, rig)
  | .dropSession :: rest => rig.dropInline.react rest

/-- Calls whoever a message is delivered to. Answers whether the router survives it. -/
def invoke (rig : Rig) (invocation : Invocation Recipient Nat) : Bool × Rig :=
  match invocation.slot.handler with
  | .handler handler =>
      let buffer := rig.session.buffers.contents invocation.slot.buffer
      (rig.note (.called handler.tag invocation.channel invocation.code buffer)).react
        (handler.actsOn invocation.code)
  | .queue number =>
      match rig.queues.get? number with
      | none => (true, rig)
      | some queue =>
          let (_, queue) := queue.record invocation rig.session.buffers
          (true, { rig with queues := rig.queues.set number queue })

/-! ## The router -/

def stop (rig : Rig) : Rig := { rig with session := rig.session.shutDown }

/-- The router leaves its loop. -/
def stopRouter (rig : Rig) : Rig := rig.stop.retire

def crashRouter (rig : Rig) : Rig := rig.stop.abandon

/-- Routes messages one after the other. A handler that fails takes the router and the messages
that are left down. -/
def routeAll (rig : Rig) : List Message → Rig
  | [] => rig
  | message :: rest =>
      let (invocation, session) := rig.session.route message
      let rig := { rig with session }
      match invocation with
      | none => rig.routeAll rest
      | some invocation =>
          match rig.invoke invocation with
          | (true, rig) => rig.routeAll rest
          | (false, rig) => rig.crashRouter

/-- The router reads whatever carries frames. -/
def poll (rig : Rig) : Arrival × Rig :=
  match rig.carrier with
  | .memory _ =>
      let (arrival, device) := rig.device.read maxFrameSize
      (arrival, { rig with device })
  | .usb stick =>
      let keep (link : UsbLink) (rig : Rig) : Rig :=
        { rig with carrier := .usb { stick with link } }
      let receive (outcome : Except UsbFault (List UInt8)) (rig : Rig) : Arrival × Rig :=
        match stick.link.receive maxFrameSize outcome with
        | (.ok bytes, link) => (.bytes bytes, keep link rig)
        | (.error error, link) => (.failure error, keep link rig)
      match stick.link.request? maxFrameSize with
      | none =>
          let (bytes, link) := stick.link.handOut maxFrameSize
          (.bytes bytes, keep link rig)
      | some asked =>
          let (arrival, device) := rig.device.read asked
          let rig := { rig with device }
          match arrival with
          | .bytes bytes => receive (.ok bytes) rig
          | .failure (.usb fault) => receive (.error fault) rig
          | .failure error => (.failure error, rig)
          | .quiet => (.quiet, rig)

/-- Runs the router for some rounds, until nothing is left to read or it stops. -/
def settleRouter (rounds : Nat) (rig : Rig) : Rig :=
  match rounds with
  | 0 => rig
  | rounds + 1 =>
      if rig.session.phase ≠ .polling then rig
      else if rig.session.stopRequested then rig.stopRouter
      else
        match rig.poll with
        | (.quiet, rig) => rig
        | (.failure _, rig) => rig.stopRouter
        | (.bytes bytes, rig) =>
            let (messages, session) := rig.session.takeChunk bytes
            settleRouter rounds ({ rig with session }.routeAll messages)

/-- Runs the router until it has nothing to do. -/
def quiesce (rig : Rig) : Rig := rig.settleRouter turnLimit

end Rig

end AntHost.Bench
