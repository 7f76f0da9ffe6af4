import AntHost.Session.Call
import AntHost.Session.Router
/-!
# Interleavings

A machine is a session with the calls in progress on it, each on a thread of its own. One event is
one atomic operation of one thread, one routed message, one step of the router on its way out, or
one change from outside: the clock, the cancel flag, the handlers, a stop that a handler asks for. A
run is any sequence of events that can happen one after the other.
-/

namespace AntHost

variable {H β : Type}

/-- A session, the calls in progress and what has reached the link. -/
structure Machine (H β : Type) where
  session : Session H β
  threads : List (Program (Except CallError Reply)) := []
  now : Nat := 0
  /-- Every frame handed to the link, oldest first, with the thread that wrote it. -/
  writes : List (Nat × List UInt8) := []
  linkCloses : Nat := 0

/-- One thing that happens. -/
inductive Event (H β : Type) where
  /-- A call begins, on the router's thread or on another one. -/
  | begin (call : Call) (onRouter : Bool)
  /-- A thread performs its next operation; a write answers what the link said. -/
  | perform (thread : Nat) (written : Except TransportError Unit)
  | route (message : Message)
  /-- The router leaves its loop, for whichever reason. -/
  | leave
  /-- The router ends the waits for responses. -/
  | endRequests
  /-- The router ends the waits for transfers and is gone. -/
  | endTransfers
  | tick (duration : Nat)
  | setCancel (raised : Bool)
  /-- Calls are told to watch the cancel flag, or not to. -/
  | installCancel (installed : Bool)
  | setTable (table : DispatchTable H β)
  /-- The last handle of the session is dropped on the router's thread, which asks itself to
  stop. -/
  | requestStop

namespace Machine

/-- What an operation of a thread leaves outside of the session. -/
def record (machine : Machine H β) (thread : Nat) : Op → Machine H β
  | .write frame => { machine with writes := machine.writes ++ [(thread, frame)] }
  | .closeTransport => { machine with linkCloses := machine.linkCloses + 1 }
  | _ => machine

/-- A thread performs its next operation, if it has one that need not wait. -/
def perform (machine : Machine H β) (thread : Nat) (written : Except TransportError Unit) :
    Option (Machine H β) :=
  match machine.threads[thread]? with
  | some (.perform op next) =>
      (op.exec machine.now written machine.session).map fun (reply, session) =>
        { machine.record thread op with
          session, threads := machine.threads.set thread (next reply) }
  | _ => none

variable [DecidableEq β]

/-- The machine after an event, if the event can happen. -/
def step (machine : Machine H β) : Event H β → Option (Machine H β)
  | .begin call onRouter =>
      some { machine with
        threads := machine.threads ++ [call.program machine.session.config onRouter] }
  | .perform thread written => machine.perform thread written
  | .route message =>
      if machine.session.phase = .polling then
        some { machine with session := (machine.session.route message).2 }
      else none
  | .leave =>
      if machine.session.phase = .polling then
        some { machine with session := machine.session.markStopped }
      else none
  | .endRequests =>
      if machine.session.phase = .marked then
        some { machine with session := machine.session.endRequests }
      else none
  | .endTransfers =>
      if machine.session.phase = .requestsEnded then
        some { machine with session := machine.session.endTransfers }
      else none
  | .tick duration => some { machine with now := machine.now + duration }
  | .setCancel raised => some { machine with session.cancelRaised := raised }
  | .installCancel installed => some { machine with session.cancelInstalled := installed }
  | .setTable table => some { machine with session.table := table }
  | .requestStop => some { machine with session := machine.session.requestStop }

/-- The machine after a sequence of events, if they can happen one after the other. -/
def run (machine : Machine H β) : List (Event H β) → Option (Machine H β)
  | [] => some machine
  | event :: rest => (machine.step event).bind fun next => next.run rest

/-- A machine on which nothing has happened yet. -/
def start (config : Config) : Machine H β := { session := .start config }

/-- Whether a sequence of events leads from one machine to another. -/
def Reaches (first last : Machine H β) : Prop := ∃ events, first.run events = some last

def result? (machine : Machine H β) (thread : Nat) : Option (Except CallError Reply) :=
  match machine.threads[thread]? with
  | some (.done result) => some result
  | _ => none

/-- An operation that need not wait is performed. -/
theorem step_perform {machine : Machine H β} {thread : Nat} {written : Except TransportError Unit}
    {op : Op} {rest : op.Reply → Program (Except CallError Reply)} {reply : op.Reply}
    {session : Session H β} (hthread : machine.threads[thread]? = some (.perform op rest))
    (hexec : op.exec machine.now written machine.session = some (reply, session)) :
    machine.step (.perform thread written) =
      some { machine.record thread op with
        session, threads := machine.threads.set thread (rest reply) } := by
  rw [step, perform, hthread]
  dsimp only
  rw [hexec]
  rfl

/-- A thread performs the next operation of its program and nothing else. -/
theorem exists_of_step_perform {machine next : Machine H β} {thread : Nat}
    {written : Except TransportError Unit}
    (hstep : machine.step (.perform thread written) = some next) :
    ∃ (op : Op) (rest : op.Reply → Program (Except CallError Reply)) (reply : op.Reply)
      (session : Session H β), machine.threads[thread]? = some (.perform op rest) ∧
        op.exec machine.now written machine.session = some (reply, session) ∧
        next = { machine.record thread op with
          session, threads := machine.threads.set thread (rest reply) } := by
  rw [step, perform] at hstep
  split at hstep
  next op rest hthread =>
    obtain ⟨⟨reply, session⟩, hexec, rfl⟩ := Option.map_eq_some_iff.mp hstep
    exact ⟨op, rest, reply, session, hthread, hexec, rfl⟩
  next => cases hstep

theorem run_append (machine : Machine H β) (first second : List (Event H β)) :
    machine.run (first ++ second) =
      (machine.run first).bind fun middle => middle.run second := by
  induction first generalizing machine with
  | nil => rfl
  | cons event rest ih =>
    simp only [List.cons_append, run]
    cases machine.step event with
    | none => rfl
    | some next => simp [ih]

theorem run_concat {first machine next : Machine H β} {events : List (Event H β)}
    {event : Event H β}
    (hrun : first.run events = some machine) (hstep : machine.step event = some next) :
    first.run (events ++ [event]) = some next := by
  rw [run_append, hrun, Option.bind_some, run, hstep]
  rfl

theorem Reaches.refl (machine : Machine H β) : machine.Reaches machine := ⟨[], rfl⟩

theorem Reaches.trans {first middle last : Machine H β} (hfirst : first.Reaches middle)
    (hlast : middle.Reaches last) : first.Reaches last := by
  obtain ⟨before, hbefore⟩ := hfirst
  obtain ⟨after, hafter⟩ := hlast
  exact ⟨before ++ after, by simp [run_append, hbefore, hafter]⟩

end Machine

end AntHost
