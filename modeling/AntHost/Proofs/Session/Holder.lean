import AntHost.Proofs.Session.Conduct
import AntHost.Proofs.Session.Routing
import AntHost.Proofs.Transfer.Run
import AntHost.Session.Interleaving
import Mathlib.Data.List.Nodup
import Mathlib.Logic.Function.Basic
/-!
# Who holds the transfer monitor

Every thread of a machine keeps the protocol of its call towards the transfer monitor, whatever the
others do. So at most one thread holds the monitor at a time, the last that was given it, and the
monitor is busy just while one does.
-/

namespace AntHost

variable {H β : Type}

/-! ## What an operation does to the monitor -/

namespace Op

/-- Whether the reply gives the monitor away. -/
def grants : (op : Op) → op.Reply → Bool
  | beginTransfer .., .ok () => true
  | _, _ => false

/-- The monitor after a reply. -/
def onTransfer : (op : Op) → op.Reply → TransferMonitor → TransferMonitor
  | beginTransfer channel kind packets _ _, .ok (), monitor =>
      { monitor with
        busy := true, channel, kind := some kind, outstanding := packets, outcome := none }
  | packetSent, _, monitor => monitor.packetSent
  | releaseTransfer, _, monitor => monitor.release
  | _, _, monitor => monitor

/-- What a reply says of the monitor. -/
def Tells : (op : Op) → op.Reply → TransferMonitor → Prop
  | beginTransfer .., .ok (), monitor => monitor.busy = false
  | transferAborted, aborted, monitor => aborted = monitor.aborted
  | awaitOutcome .., .ok outcome, monitor => monitor.outcome = some outcome
  | _, _, _ => True

variable {op : Op} {reply : op.Reply} {session next : Session H β} {now : Nat}
  {written : Except TransportError Unit}

theorem exec_transfer (hexec : op.exec now written session = some (reply, next)) :
    next.transfer = op.onTransfer reply session.transfer ∧ op.Tells reply session.transfer := by
  cases op with
  | beginTransfer channel kind packets policy deadline =>
      obtain ⟨result, hcheck, heq⟩ := Option.map_eq_some_iff.mp hexec
      cases heq
      rcases TransferMonitor.check_tryBegin hcheck with
        ⟨rfl, _, hbusy, hnext⟩ | ⟨error, rfl, _, hnext⟩
      · exact ⟨hnext, hbusy⟩
      · exact ⟨hnext, trivial⟩
  | awaitOutcome policy deadline =>
      obtain ⟨result, hcheck, heq⟩ := Option.map_eq_some_iff.mp hexec
      cases heq
      refine ⟨rfl, ?_⟩
      cases reply with
      | error error => trivial
      | ok outcome => exact TransferMonitor.check_look.mp hcheck
  | awaitResponse first second policy deadline =>
      obtain ⟨result, _, heq⟩ := Option.map_eq_some_iff.mp hexec
      cases heq
      exact ⟨rfl, trivial⟩
  | awaitStopped | joinRouter =>
      rw [exec] at hexec
      split at hexec
      next =>
        cases hexec
        exact ⟨rfl, trivial⟩
      next => cases hexec
  | transferAborted =>
      cases hexec
      exact ⟨rfl, rfl⟩
  | _ =>
      cases hexec
      exact ⟨rfl, trivial⟩

theorem busy_onTransfer (reply : op.Reply) (monitor : TransferMonitor) :
    (op.onTransfer reply monitor).busy =
      (op.grants reply || (monitor.busy && decide (op ≠ releaseTransfer))) := by
  cases op with
  | beginTransfer => rcases reply with error | ⟨⟩ <;> simp [onTransfer, grants]
  | _ => simp [onTransfer, grants, TransferMonitor.packetSent, TransferMonitor.release]

theorem free_of_grants {monitor : TransferMonitor} (htells : op.Tells reply monitor)
    (hgrants : op.grants reply = true) : monitor.busy = false := by
  cases op with
  | beginTransfer =>
      rcases reply with error | ⟨⟩
      · cases hgrants
      · exact htells
  | _ => cases hgrants

theorem first_of_grants {burst? : Option UInt8} {stage : TransferStage}
    (hallows : stage.Allows burst? op) (hgrants : op.grants reply = true) :
    stage.begun = false := by
  cases op with
  | beginTransfer => exact hallows.1
  | _ => cases hgrants

theorem holds_next (stage : TransferStage) (reply : op.Reply) :
    (stage.next op reply).holds =
      (op.grants reply || (stage.holds && decide (op ≠ releaseTransfer))) := by
  cases op with
  | beginTransfer => rcases reply with error | ⟨⟩ <;> simp [TransferStage.next, grants]
  | awaitOutcome => rcases reply with error | (_ | _) <;> simp [TransferStage.next, grants]
  | _ => simp [TransferStage.next, grants]

theorem begun_next (stage : TransferStage) (reply : op.Reply) :
    (stage.next op reply).begun = (stage.begun || op.grants reply) := by
  cases op with
  | beginTransfer => rcases reply with error | ⟨⟩ <;> simp [TransferStage.next, grants]
  | awaitOutcome => rcases reply with error | (_ | _) <;> simp [TransferStage.next, grants]
  | _ => simp [TransferStage.next, grants]

end Op

/-! ## Moves of a machine -/

/-- The call that an event begins. -/
def Event.call? : Event H β → Option Call
  | begin call _ => some call
  | _ => none

namespace Machine

variable {machine : Machine H β}

/-- The calls of the threads, in the order in which they began. -/
def calls (events : List (Event H β)) : List Call := events.filterMap Event.call?

theorem calls_concat (events : List (Event H β)) (event : Event H β) :
    calls (events ++ [event]) = calls events ++ event.call?.toList := by
  rw [calls, List.filterMap_append]
  cases hcall : event.call? <;> simp [calls, hcall]

theorem calls_concat_of_none {event : Event H β} (hnone : event.call? = none)
    (events : List (Event H β)) : calls (events ++ [event]) = calls events := by
  rw [calls_concat, hnone, Option.toList_none, List.append_nil]

/-- The thread that an event gives the monitor to. -/
def granted? (machine : Machine H β) : Event H β → Option Nat
  | .perform thread written =>
      if machine.session.transfer.busy then none
      else
        (machine.perform thread written).bind fun next =>
          if next.session.transfer.busy then some thread else none
  | _ => none

theorem granted?_of_other {event : Event H β}
    (hother : ∀ thread written, event ≠ .perform thread written) :
    machine.granted? event = none := by
  cases event with
  | perform thread written => exact absurd rfl (hother thread written)
  | _ => rfl

theorem granted?_of_performed {thread : Nat} {written : Except TransportError Unit} {op : Op}
    {rest : op.Reply → Program (Except CallError Reply)} {reply : op.Reply} {session : Session H β}
    (hthread : machine.threads[thread]? = some (.perform op rest))
    (hexec : op.exec machine.now written machine.session = some (reply, session)) :
    machine.granted? (.perform thread written) =
      if op.grants reply then some thread else none := by
  obtain ⟨htransfer, htells⟩ := Op.exec_transfer hexec
  rw [granted?, perform, hthread]
  dsimp only
  rw [hexec, Option.map_some, Option.bind_some, htransfer, Op.busy_onTransfer]
  cases hgrants : op.grants reply with
  | true => simp [Op.free_of_grants htells hgrants]
  | false => cases machine.session.transfer.busy <;> simp

end Machine

variable [DecidableEq β]

/-- Routing touches the monitor only with channel events. -/
theorem Session.route_transfer (session : Session H β) (message : Message) :
    (session.route message).2.transfer =
      match message.route? with
      | some (.channelEvent channel code) => session.transfer.onEvent channel code
      | _ => session.transfer := by
  generalize hroute : session.route message = result
  obtain ⟨call, after⟩ := result
  unfold route at hroute
  split at hroute
  next hnone =>
    cases hroute
    rw [hnone]
  next hresponse => rw [hresponse, (offerResponse_cases hroute).1]
  next hevent => rw [hevent, (delivers_of_deliver message.payload_le hroute).1]
  next channel event length hdata =>
    have hlength := Nat.le_trans (List.length_take_le' length message.payload) message.payload_le
    rw [hdata, (delivers_of_deliver hlength hroute).1]
  next hother => rw [hother, (offerResponse_cases hroute).1]

theorem Session.busy_route (session : Session H β) (message : Message) :
    (session.route message).2.transfer.busy = session.transfer.busy := by
  rw [route_transfer]
  split
  next => rw [TransferMonitor.onEvent_frame]
  next => rfl

namespace Machine

/-- Everything an event can do to a machine, and to the stages of its threads. -/
inductive Moves (machine : Machine H β) (stages : Nat → TransferStage) :
    Event H β → Machine H β → (Nat → TransferStage) → Prop where
  | begun (call : Call) (onRouter : Bool) :
      Moves machine stages (.begin call onRouter)
        { machine with
          threads := machine.threads ++ [call.program machine.session.config onRouter] }
        (Function.update stages machine.threads.length { rest := call.frames })
  | performed {thread : Nat} {written : Except TransportError Unit} {op : Op}
      {next : op.Reply → Program (Except CallError Reply)} {reply : op.Reply}
      {session : Session H β} (hthread : machine.threads[thread]? = some (.perform op next))
      (hexec : op.exec machine.now written machine.session = some (reply, session)) :
      Moves machine stages (.perform thread written)
        { machine.record thread op with
          session, threads := machine.threads.set thread (next reply) }
        (Function.update stages thread ((stages thread).next op reply))
  | routed (message : Message) :
      Moves machine stages (.route message)
        { machine with session := (machine.session.route message).2 } stages
  | changed {event : Event H β} {session : Session H β} {now : Nat}
      (hcall : event.call? = none) (hother : ∀ thread written, event ≠ .perform thread written)
      (htransfer : session.transfer = machine.session.transfer ∨
        session.transfer = machine.session.transfer.close) :
      Moves machine stages event { machine with session, now } stages

variable {machine next : Machine H β} {event : Event H β} {stages later : Nat → TransferStage}

theorem exists_moves (hstep : machine.step event = some next) (stages : Nat → TransferStage) :
    ∃ later, Moves machine stages event next later := by
  cases event with
  | begin call onRouter =>
      cases hstep
      exact ⟨_, .begun call onRouter⟩
  | perform thread written =>
      obtain ⟨_, _, _, _, hthread, hexec, rfl⟩ := exists_of_step_perform hstep
      exact ⟨_, .performed hthread hexec⟩
  | route message =>
      rw [step] at hstep
      split at hstep
      next =>
        cases hstep
        exact ⟨_, .routed message⟩
      next => cases hstep
  | leave | endRequests =>
      rw [step] at hstep
      split at hstep
      next =>
        cases hstep
        exact ⟨_, .changed rfl (by simp) (.inl rfl)⟩
      next => cases hstep
  | endTransfers =>
      rw [step] at hstep
      split at hstep
      next =>
        cases hstep
        exact ⟨_, .changed rfl (by simp) (.inr rfl)⟩
      next => cases hstep
  | tick | setCancel | installCancel | setTable | requestStop =>
      cases hstep
      exact ⟨_, .changed rfl (by simp) (.inl rfl)⟩

/-! ## Who was given the monitor -/

theorem getElem?_concat_of_ne {α : Type} {entries : List α} {entry : α} {index : Nat}
    (hne : index ≠ entries.length) : (entries ++ [entry])[index]? = entries[index]? := by
  rcases Nat.lt_or_gt_of_ne hne with hlt | hgt
  · exact List.getElem?_append_left hlt
  · rw [List.getElem?_eq_none (by simp; omega), List.getElem?_eq_none (Nat.le_of_lt hgt)]

/-- The threads that are given the monitor, one after the other. -/
def grants (machine : Machine H β) : List (Event H β) → List Nat
  | [] => []
  | event :: rest =>
      (machine.granted? event).toList ++
        match machine.step event with
        | some next => next.grants rest
        | none => []

/-- The thread that holds the monitor after some events: the last it was given to, as long as it is
busy. -/
def holder? (machine : Machine H β) (events : List (Event H β)) : Option Nat :=
  (machine.run events).bind fun last =>
    if last.session.transfer.busy then (machine.grants events).getLast? else none

theorem grants_concat {first last : Machine H β} {events : List (Event H β)}
    (hrun : first.run events = some last) (event : Event H β) :
    first.grants (events ++ [event]) = first.grants events ++ (last.granted? event).toList := by
  induction events generalizing first with
  | nil =>
      cases hrun
      rw [List.nil_append, grants, grants, List.nil_append]
      cases last.step event <;> simp [grants]
  | cons head rest ih =>
      obtain ⟨next, hstep, hrest⟩ := Option.bind_eq_some_iff.mp hrun
      rw [List.cons_append, grants, grants, hstep]
      dsimp only
      rw [ih hrest, List.append_assoc]

/-- What holds at the start and is kept by every event, given all that has happened, holds after
every run. -/
theorem run_invariant (Holds : List (Event H β) → Machine H β → Prop) {first last : Machine H β}
    {before events : List (Event H β)} (hstart : Holds before first)
    (hstep : ∀ earlier middle event next, Holds earlier middle →
      middle.step event = some next → Holds (earlier ++ [event]) next)
    (hrun : first.run events = some last) : Holds (before ++ events) last := by
  induction events generalizing before first with
  | nil =>
      cases hrun
      rwa [List.append_nil]
  | cons event rest ih =>
      obtain ⟨next, hnext, hrest⟩ := Option.bind_eq_some_iff.mp hrun
      rw [List.append_cons]
      exact ih (hstep before first event next hstart hnext) hrest

/-! ## The invariant -/

/-- The one thread that holds the monitor, if it is busy, is the last it was given to. -/
structure Holding (grants : List Nat) (busy : Bool) (stages : Nat → TransferStage) : Prop where
  begun : ∀ thread, (stages thread).holds = true → (stages thread).begun = true
  nodup : grants.Nodup
  mem : ∀ thread, thread ∈ grants ↔ (stages thread).begun = true
  last : ∀ thread, (stages thread).holds = true → grants.getLast? = some thread
  busy_of_holds : ∀ thread, (stages thread).holds = true → busy = true
  exists_holds : busy = true → ∃ thread, (stages thread).holds = true

namespace Holding

variable {grants : List Nat} {busy : Bool} {stages later : Nat → TransferStage} {thread : Nat}
  {stage : TransferStage}

theorem fresh : Holding [] false fun _ => {} where
  begun _ hholds := nomatch hholds
  nodup := List.nodup_nil
  mem _ := ⟨nofun, nofun⟩
  last _ hholds := nomatch hholds
  busy_of_holds _ hholds := nomatch hholds
  exists_holds hbusy := nomatch hbusy

theorem unique (hholding : Holding grants busy stages) {first second : Nat}
    (hfirst : (stages first).holds = true) (hsecond : (stages second).holds = true) :
    first = second :=
  Option.some.inj ((hholding.last first hfirst).symm.trans (hholding.last second hsecond))

theorem congr (hholding : Holding grants busy stages)
    (hsame : ∀ thread, (later thread).begun = (stages thread).begun ∧
      (later thread).holds = (stages thread).holds) : Holding grants busy later where
  begun thread hholds := by
    rw [(hsame thread).1]
    exact hholding.begun thread ((hsame thread).2 ▸ hholds)
  nodup := hholding.nodup
  mem thread := by rw [hholding.mem, (hsame thread).1]
  last thread hholds := hholding.last thread ((hsame thread).2 ▸ hholds)
  busy_of_holds thread hholds := hholding.busy_of_holds thread ((hsame thread).2 ▸ hholds)
  exists_holds hbusy := by
    obtain ⟨thread, hholds⟩ := hholding.exists_holds hbusy
    exact ⟨thread, (hsame thread).2 ▸ hholds⟩

theorem update (hholding : Holding grants busy stages)
    (hbegun : stage.begun = (stages thread).begun) (hholds : stage.holds = (stages thread).holds) :
    Holding grants busy (Function.update stages thread stage) := by
  refine hholding.congr fun other => ?_
  by_cases hother : other = thread
  · subst hother
    rw [Function.update_self]
    exact ⟨hbegun, hholds⟩
  · rw [Function.update_of_ne hother]
    exact ⟨rfl, rfl⟩

theorem grant (hholding : Holding grants false stages) (hfirst : (stages thread).begun = false)
    (hbegun : stage.begun = true) (hholds : stage.holds = true) :
    Holding (grants ++ [thread]) true (Function.update stages thread stage) := by
  have hfree : ∀ other, (stages other).holds = false := by
    intro other
    rw [← Bool.not_eq_true]
    exact fun hother => Bool.noConfusion (hholding.busy_of_holds other hother)
  have honly : ∀ other, (Function.update stages thread stage other).holds = true →
      other = thread := by
    intro other hother
    by_contra hne
    rw [Function.update_of_ne hne, hfree] at hother
    cases hother
  refine ⟨?_, ?_, ?_, ?_, ?_, ?_⟩
  · intro other hother
    rw [honly other hother, Function.update_self]
    exact hbegun
  · refine hholding.nodup.append (List.nodup_singleton _) ?_
    intro other hother hnew
    rw [List.mem_singleton.mp hnew, hholding.mem, hfirst] at hother
    cases hother
  · intro other
    rw [List.mem_append, hholding.mem, List.mem_singleton]
    by_cases hother : other = thread
    · rw [hother, Function.update_self]
      simp [hbegun]
    · rw [Function.update_of_ne hother]
      simp [hother]
  · intro other hother
    rw [honly other hother, List.getLast?_concat]
  · exact fun _ _ => rfl
  · exact fun _ => ⟨thread, by rw [Function.update_self]; exact hholds⟩

theorem release (hholding : Holding grants busy stages) (hheld : (stages thread).holds = true)
    (hbegun : stage.begun = (stages thread).begun) (hholds : stage.holds = false) :
    Holding grants false (Function.update stages thread stage) := by
  have hnone : ∀ other, (Function.update stages thread stage other).holds = false := by
    intro other
    by_cases hother : other = thread
    · rw [hother, Function.update_self]
      exact hholds
    · rw [Function.update_of_ne hother, ← Bool.not_eq_true]
      exact fun hsecond => hother (hholding.unique hsecond hheld)
  refine ⟨?_, hholding.nodup, ?_, ?_, ?_, nofun⟩
  · intro other hother
    rw [hnone] at hother
    cases hother
  · intro other
    rw [hholding.mem]
    by_cases hother : other = thread
    · rw [hother, Function.update_self, hbegun]
    · rw [Function.update_of_ne hother]
  · intro other hother
    rw [hnone] at hother
    cases hother
  · intro other hother
    rw [hnone] at hother
    cases hother

end Holding

/-- Every thread of a reached machine is at a stage of its call's protocol. -/
structure Held (config : Config) (events : List (Event H β)) (machine : Machine H β)
    (stages : Nat → TransferStage) : Prop where
  reached : (start config).run events = some machine
  length : machine.threads.length = (calls events).length
  keeps : ∀ thread (program : Program (Except CallError Reply)) call,
    machine.threads[thread]? = some program → (calls events)[thread]? = some call →
    program.Keeps (transferProtocol call.burst?) call.Ends (stages thread)
  lt : ∀ thread, (stages thread).begun = true → thread < machine.threads.length
  holding : Holding ((start config : Machine H β).grants events) machine.session.transfer.busy
    stages

namespace Held

variable {config : Config} {events : List (Event H β)}

theorem fresh (config : Config) : Held config [] (start config : Machine H β) fun _ => {} where
  reached := rfl
  length := rfl
  keeps _ _ _ hthread := nomatch hthread
  lt _ hbegun := nomatch hbegun
  holding := .fresh

/-- What a thread does next, its call allows. -/
theorem allows (hheld : Held config events machine stages) {thread : Nat} {op : Op}
    {rest : op.Reply → Program (Except CallError Reply)}
    (hthread : machine.threads[thread]? = some (.perform op rest)) :
    ∃ call, (calls events)[thread]? = some call ∧ (stages thread).Allows call.burst? op ∧
      ∀ reply, (rest reply).Keeps (transferProtocol call.burst?) call.Ends
        ((stages thread).next op reply) := by
  have hlt : thread < (calls events).length := by
    rw [← hheld.length]
    exact (List.getElem?_eq_some_iff.mp hthread).1
  have hcall := List.getElem?_eq_getElem hlt
  exact ⟨_, hcall, hheld.keeps thread _ _ hthread hcall⟩

theorem keeps_step (hheld : Held config events machine stages)
    (hmoves : Moves machine stages event next later) (thread : Nat)
    {program : Program (Except CallError Reply)} {call : Call}
    (hthread : next.threads[thread]? = some program)
    (hcall : (calls (events ++ [event]))[thread]? = some call) :
    program.Keeps (transferProtocol call.burst?) call.Ends (later thread) := by
  cases hmoves with
  | begun own onRouter =>
      rw [calls_concat] at hcall
      change (machine.threads ++ [_])[thread]? = _ at hthread
      change (calls events ++ [own])[thread]? = _ at hcall
      by_cases hnew : thread = machine.threads.length
      · subst hnew
        rw [List.getElem?_concat_length] at hthread
        rw [hheld.length, List.getElem?_concat_length] at hcall
        cases hthread
        cases hcall
        rw [Function.update_self]
        exact Call.keeps _ onRouter _
      · rw [getElem?_concat_of_ne hnew] at hthread
        rw [getElem?_concat_of_ne (hheld.length ▸ hnew)] at hcall
        rw [Function.update_of_ne hnew]
        exact hheld.keeps thread program call hthread hcall
  | @performed performer written op rest reply session hperformer hexec =>
      change (machine.threads.set performer (rest reply))[thread]? = _ at hthread
      rw [calls_concat_of_none rfl] at hcall
      by_cases hsame : thread = performer
      · subst hsame
        obtain ⟨own, hown, _, hkeeps⟩ := hheld.allows hperformer
        rw [List.getElem?_set_self (List.getElem?_eq_some_iff.mp hperformer).1] at hthread
        rw [hown] at hcall
        cases hthread
        cases hcall
        rw [Function.update_self]
        exact hkeeps reply
      · rw [List.getElem?_set_ne (Ne.symm hsame)] at hthread
        rw [Function.update_of_ne hsame]
        exact hheld.keeps thread program call hthread hcall
  | routed message =>
      rw [calls_concat_of_none rfl] at hcall
      exact hheld.keeps thread program call hthread hcall
  | changed hnone =>
      rw [calls_concat_of_none hnone] at hcall
      exact hheld.keeps thread program call hthread hcall

theorem lt_step (hheld : Held config events machine stages)
    (hmoves : Moves machine stages event next later) (thread : Nat)
    (hbegun : (later thread).begun = true) : thread < next.threads.length := by
  cases hmoves with
  | begun own onRouter =>
      by_cases hnew : thread = machine.threads.length
      · rw [hnew, Function.update_self] at hbegun
        cases hbegun
      · rw [Function.update_of_ne hnew] at hbegun
        rw [List.length_append]
        exact Nat.lt_add_right _ (hheld.lt thread hbegun)
  | @performed performer written op rest reply session hperformer hexec =>
      rw [List.length_set]
      by_cases hsame : thread = performer
      · exact hsame ▸ (List.getElem?_eq_some_iff.mp hperformer).1
      · rw [Function.update_of_ne hsame] at hbegun
        exact hheld.lt thread hbegun
  | routed message => exact hheld.lt thread hbegun
  | changed => exact hheld.lt thread hbegun

theorem length_step (hheld : Held config events machine stages)
    (hmoves : Moves machine stages event next later) :
    next.threads.length = (calls (events ++ [event])).length := by
  rw [calls_concat, List.length_append, ← hheld.length]
  cases hmoves with
  | begun => exact List.length_append
  | performed => exact List.length_set
  | routed => rfl
  | changed hnone => rw [hnone]; rfl

/-- An operation gives the monitor to its thread, takes it from there or leaves it where it is. -/
theorem holding_performed (hheld : Held config events machine stages) {thread : Nat} {op : Op}
    {rest : op.Reply → Program (Except CallError Reply)} {reply : op.Reply} {session : Session H β}
    {written : Except TransportError Unit}
    (hthread : machine.threads[thread]? = some (.perform op rest))
    (hexec : op.exec machine.now written machine.session = some (reply, session)) :
    Holding ((start config : Machine H β).grants events ++
        (if op.grants reply then some thread else none).toList)
      session.transfer.busy
      (Function.update stages thread ((stages thread).next op reply)) := by
  have hholding := hheld.holding
  obtain ⟨htransfer, htells⟩ := Op.exec_transfer hexec
  obtain ⟨call, _, hallows, _⟩ := hheld.allows hthread
  have hbegun := Op.begun_next (stages thread) reply
  have hholds := Op.holds_next (stages thread) reply
  rw [htransfer, Op.busy_onTransfer]
  cases hgrants : op.grants reply with
  | true =>
      rw [hgrants] at hbegun hholds
      rw [Op.free_of_grants htells hgrants] at hholding
      exact hholding.grant (Op.first_of_grants hallows hgrants) (by simpa using hbegun)
        (by simpa using hholds)
  | false =>
      rw [hgrants] at hbegun hholds
      rw [if_neg Bool.false_ne_true, Option.toList_none, List.append_nil]
      by_cases hrelease : op = .releaseTransfer
      · subst hrelease
        simp only [ne_eq, not_true_eq_false, decide_false, Bool.and_false, Bool.or_false]
        exact hholding.release hallows (by simpa using hbegun) (by simpa using hholds)
      · have hkeep : decide (op ≠ .releaseTransfer) = true := decide_eq_true hrelease
        rw [hkeep, Bool.and_true] at hholds ⊢
        exact hholding.update (by simpa using hbegun) (by simpa using hholds)

theorem holding_step (hheld : Held config events machine stages)
    (hmoves : Moves machine stages event next later) :
    Holding ((start config : Machine H β).grants (events ++ [event]))
      next.session.transfer.busy later := by
  have hholding := hheld.holding
  rw [grants_concat hheld.reached]
  cases hmoves with
  | begun own onRouter =>
      have hfresh : (stages machine.threads.length).begun = false := by
        rw [← Bool.not_eq_true]
        exact fun hbegun => Nat.lt_irrefl _ (hheld.lt _ hbegun)
      have hfree : (stages machine.threads.length).holds = false := by
        rw [← Bool.not_eq_true]
        intro hholds
        rw [hholding.begun _ hholds] at hfresh
        cases hfresh
      change Holding (_ ++ []) machine.session.transfer.busy _
      rw [List.append_nil]
      exact hholding.update hfresh.symm hfree.symm
  | performed hthread hexec =>
      rw [granted?_of_performed hthread hexec]
      exact hheld.holding_performed hthread hexec
  | routed message =>
      change Holding (_ ++ []) (machine.session.route message).2.transfer.busy _
      rw [List.append_nil, Session.busy_route]
      exact hholding
  | @changed _ session now hnone hother htransfer =>
      have hbusy : session.transfer.busy = machine.session.transfer.busy := by
        rcases htransfer with hsame | hclosed
        · rw [hsame]
        · rw [hclosed]
          rfl
      change Holding _ session.transfer.busy _
      rw [granted?_of_other hother, Option.toList_none, List.append_nil, hbusy]
      exact hholding

theorem step (hheld : Held config events machine stages)
    (hstep : machine.step event = some next) (hmoves : Moves machine stages event next later) :
    Held config (events ++ [event]) next later where
  reached := run_concat hheld.reached hstep
  length := hheld.length_step hmoves
  keeps thread _ _ := hheld.keeps_step hmoves thread
  lt := hheld.lt_step hmoves
  holding := hheld.holding_step hmoves

end Held

end Machine

end AntHost
