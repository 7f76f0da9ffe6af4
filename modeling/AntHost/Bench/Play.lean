import AntHost.Bench.Router
/-!
# Playing scripts

A script is played step by step. While the host waits for a call, the router and the threads go on,
and if nothing moves the clock jumps to the earliest deadline. Every step ends when nothing moves
any more.
-/

namespace AntHost.Bench

namespace Rig

/-- A thread other than the router's drops the last handle: the session is closed. -/
def dropOutside (rig : Rig) : Rig :=
  match rig.advance (Call.program rig.session.config false .close) with
  | (.waiting rest, rig) => (rig.quiesce.advance rest).2.retire
  | (_, rig) => rig.retire

/-- Runs the router and the threads for some turns, until nothing moves. The router goes first. A
call that ends may give up the last use of the session. -/
def settleAll (turns : Nat) (rig : Rig) : Rig :=
  let rig := rig.quiesce
  match turns with
  | 0 => rig
  | turns + 1 =>
      match rig.next? with
      | none => rig
      | some (caller, rest) =>
          let rig := rig.goOn caller rest
          settleAll turns (if rig.inUse then rig else rig.dropOutside)

/-- Runs the router and the threads until nothing moves. -/
def settle (rig : Rig) : Rig := rig.settleAll turnLimit

/-- Waits until the call of a thread has ended, in some jumps of the clock. Answers what it
answered. -/
def await (jumps : Nat) (rig : Rig) (caller : Caller) : Answer × Rig :=
  let rig := rig.settle
  match rig.threads.get? caller with
  | none => (.nothing, rig)
  | some (.ended answer) => (answer, { rig with threads := rig.threads.erase caller })
  | some _ =>
      match jumps, rig.deadline? with
      | 0, _ | _, none => (.stalled, { rig with threads := rig.threads.erase caller })
      | jumps + 1, some moment => await jumps (rig.waitUntil moment) caller

def startCall (rig : Rig) (caller : Caller) (call : Call) : Rig :=
  { rig with
    threads := rig.threads.set caller (.waiting (call.program rig.session.config false)) }

/-! ## Steps -/

/-- Makes a request on the host's thread. -/
def make (rig : Rig) (request : Request) : Answer × Rig :=
  if !rig.held then (.noSession, rig)
  else
    match request with
    | .call call => (rig.startCall .host call).await turnLimit .host
    | request => rig.answerLocally request

/-- Makes a request on a thread of its own. -/
def spawn (rig : Rig) (name : String) (request : Request) : Rig :=
  match rig.held, request with
  | true, .call call => rig.startCall (.task name) call
  | _, request =>
      let (answer, rig) := rig.make request
      { rig with threads := rig.threads.set (.task name) (.ended answer) }

/-- Takes the oldest event from the receiving end kept under a name. -/
def receive (rig : Rig) (name : String) : Answer × Rig :=
  match rig.receivers.get? name with
  | none => (.nothing, rig)
  | some number =>
      match rig.queues.get? number with
      | none => (.nothing, rig)
      | some queue =>
          let (received, queue) := queue.receive
          (.received received, { rig with queues := rig.queues.set number queue })

/-- Drops the host's handle. Answers whether it was there. -/
def dropHandle (rig : Rig) : Bool × Rig :=
  if rig.held then
    let rig := { rig with held := false }
    (true, if rig.inUse then rig else rig.dropOutside)
  else (false, rig)

def act (rig : Rig) : Step → Answer × Rig
  | .request request => rig.make request
  | .inject bytes =>
      (.nothing, { rig with device.inbound := rig.device.inbound ++ bytes })
  | .failRead error => (.nothing, { rig with device.failRead := some error })
  | .setCancel raised => (.nothing, { rig with session.cancelRaised := raised })
  | .receive name => rig.receive name
  | .dropQueue name =>
      let (found, rig) := rig.dropReceiver name
      (.flag found, rig)
  | .spawn name request => (.nothing, rig.spawn name request)
  | .join name => rig.await turnLimit (.task name)
  | .dropSession =>
      let (found, rig) := rig.dropHandle
      (.flag found, rig)

/-- The router's state, if the host still has its handle. -/
def visibleState (rig : Rig) : Option RouterState :=
  if rig.held then some rig.session.state else none

/-- What there is to see after a step that answered. -/
def record (answer : Answer) (rig : Rig) : Record := ⟨answer, rig.visibleState, rig.seen⟩

/-- Plays one step, until nothing moves. -/
def step (rig : Rig) (step : Step) : Record × Rig :=
  let (answer, rig) := { rig with seen := [] }.act step
  let rig := rig.settle.retire
  (record answer rig, rig)

/-- Plays a script and drops the session at its end, which has a record of its own. -/
def play (rig : Rig) : List Step → List Record
  | [] => [(rig.step .dropSession).1]
  | next :: rest =>
      let (first, rig) := rig.step next
      first :: rig.play rest

def inMemory (config : Config) (device : Device) (closable : Bool) : Rig :=
  { session := .start config, device, carrier := .memory closable }

/-- A session with a stick. Answers why it cannot be set up, or the rig, and the calls that reached
the bus. -/
def onBus (config : Config) (device : Device) (bus : UsbBus) (index : Nat) :
    Except CallError Rig × List Entry :=
  match UsbStick.connect bus index with
  | (.error error, calls) => (.error (.transport error), calls.map .usb)
  | (.ok stick, calls) =>
      (.ok { session := .start config, device, carrier := .usb stick }, calls.map .usb)

end Rig

end AntHost.Bench
