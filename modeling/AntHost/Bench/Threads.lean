import AntHost.Bench.Rig
/-!
# Threads on the bench

How the calls of several threads go on side by side. A call runs until it ends, has to wait, or has
handed a frame to the device. A call on the router's thread runs to its end: while it has to wait,
the other threads go on without the router, and if none can, the clock jumps to the earliest
deadline.
-/

namespace AntHost.Bench

/-- When the wait that a program stands at expires, if it stands at one that does. -/
def deadlineOf {α : Type} : Program α → Option Nat
  | .done _ => none
  | .perform op _ => op.deadline?

/-- The earlier of two moments, either of which may never come. -/
def earlier : Option Nat → Option Nat → Option Nat
  | some first, some second => some (min first second)
  | some first, none => some first
  | none, second => second

/-- The deadline of the wait a thread is in. -/
def Thread.deadline? : Thread → Option Nat
  | waiting rest => deadlineOf rest
  | writing _ | ended _ => none

namespace Rig

/-- Runs the program of a call up to its end, a wait, or the return of a write. -/
def advance (rig : Rig) : Program (Except CallError Reply) → Thread × Rig
  | .done result => (.ended (.call result), rig)
  | .perform op next =>
      match rig.perform op with
      | none => (.waiting (.perform op next), rig)
      | some (reply, rig) =>
          if op.isWrite then (.writing (next reply), rig) else rig.advance (next reply)

/-- Goes on with the call of a thread. -/
def goOn (rig : Rig) (caller : Caller) (rest : Program (Except CallError Reply)) : Rig :=
  let (thread, rig) := rig.advance rest
  { rig with threads := rig.threads.set caller thread }

/-- The call that goes on next: one whose write returns comes before those whose wait is over. -/
def next? (rig : Rig) : Option (Caller × Program (Except CallError Reply)) :=
  let written := rig.threads.entries.findSome? fun
    | (caller, .writing rest) => some (caller, rest)
    | _ => none
  written <|> rig.threads.entries.findSome? fun
    | (caller, .waiting rest) => if rig.canRun rest then some (caller, rest) else none
    | _ => none

/-- The earliest moment at which the wait of a thread expires. -/
def deadline? (rig : Rig) : Option Nat :=
  rig.threads.values.foldl (fun found thread => earlier found thread.deadline?) none

/-- Turns after which threads that never come to rest are left alone. -/
def turnLimit : Nat := 1000000

/-- Lets the threads go on for some turns without the router, until none can. -/
def goOnAll (turns : Nat) (rig : Rig) : Rig :=
  match turns with
  | 0 => rig
  | turns + 1 =>
      match rig.next? with
      | none => rig
      | some (caller, rest) => goOnAll turns (rig.goOn caller rest)

/-- Performs an operation for which the router's thread has to wait, in some jumps of the clock.
Answers nothing if the wait never ends. -/
def performLate (jumps : Nat) (rig : Rig) (op : Op) : Option op.Reply × Rig :=
  match jumps with
  | 0 => (none, rig)
  | jumps + 1 =>
      let rig := rig.goOnAll turnLimit
      match rig.perform op with
      | some (reply, rig) => (some reply, rig)
      | none =>
          match earlier op.deadline? rig.deadline? with
          | none => (none, rig)
          | some moment => performLate jumps (rig.waitUntil moment) op

/-- Runs a program on the router's thread. Answers nothing if it never ends. -/
def runInline {α : Type} (rig : Rig) : Program α → Option α × Rig
  | .done value => (some value, rig)
  | .perform op next =>
      match rig.perform op with
      | some (reply, rig) => rig.runInline (next reply)
      | none =>
          match rig.performLate turnLimit op with
          | (some reply, rig) => rig.runInline (next reply)
          | (none, rig) => (none, rig)

end Rig

end AntHost.Bench
