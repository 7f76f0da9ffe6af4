import AntHost.Proofs.Session.Sending
import AntHost.Proofs.Session.Threads
/-!
# How calls ask for responses

A timed call registers what it expects before it writes its command, waits for nothing else, and
gives up what it registered on every way out. What it returns the messages say that it took, unless
the link failed, a wait was given up, the time was over or the clock could not hold it.
-/

namespace AntHost

/-- What a call registers: messages of one identifier, from any channel or from one. -/
structure Expectation where
  messageId : UInt8
  channel : Option UInt8
deriving DecidableEq

/-- An error that does not come from the device's answer. -/
def CallError.Interrupts (error : CallError) : Prop :=
  ∀ messageId code, error ≠ .rejected messageId code

theorem CallError.interrupts_ofWait (error : WaitError) : (ofWait error).Interrupts := by
  cases error <;> nofun

namespace Call

/-- What a call registers, in order. -/
def expects : Call → List Expectation
  | command body (some _) => [⟨body.messageId.value, body.channel?⟩]
  | reset (some _) => [⟨MessageId.startupMessage.value, none⟩]
  | request channel messageId (some _) =>
      [⟨messageId, Action.requestScope channel messageId⟩,
        ⟨MessageId.requestMessage.value, some channel⟩]
  | _ => []

/-- How long a call waits for what it expects; zero is for ever. -/
def patience : Call → Nat
  | command _ timeout | reset timeout | request _ _ timeout => timeout.getD 0
  | _ => 0

/-- What a response says of the command it answers. -/
def judge (response : Message) : Except CallError Reply :=
  if response.byteAt 2 = EventCode.responseNoError.value then .ok .done
  else .error (.rejected (response.byteAt 1) (response.byteAt 2))

/-- What a call returns for the messages it took, once it needs no further one. -/
def verdict? : Call → List Message → Option (Except CallError Reply)
  | command _ _, [response] => some (judge response)
  | reset _, [message] => some (.ok (.message message))
  | request _ messageId _, [message] =>
      if Action.isAnswer messageId message then some (.ok (.message message))
      else if message.byteAt 2 = EventCode.responseNoError.value then none
      else some (.error (.rejected (message.byteAt 1) (message.byteAt 2)))
  | request .., [_, message] => some (.ok (.message message))
  | _, _ => none

end Call

/-! ## The stages of a call -/

/-- How far a call is with what it expects. -/
structure AskStage where
  /-- What it registered and has not given up, the latest last. -/
  held : List (Ticket × Expectation) := []
  /-- The messages its waits ended with. -/
  taken : List Message := []
  /-- What the clock showed it. -/
  clocks : List Nat := []
  written : Bool := false
  /-- Whether the link failed or a wait ended without a message. -/
  failed : Bool := false

/-- The clock never ran back, no reading came after the time was over, and from none on is the time
more than the clock can hold. -/
def Timely (timeout : Nat) (clocks : List Nat) : Prop :=
  clocks.Pairwise (· ≤ ·) ∧ ∀ start ∈ clocks.head?, ∀ reading ∈ clocks,
    timeout = 0 ∨ reading < start + timeout ∧ reading + timeout < clockEnd

namespace AskStage

/-- The command is written and nothing but the device decides what comes of it. -/
def Calm (timeout : Nat) (stage : AskStage) : Prop :=
  stage.written = true ∧ stage.failed = false ∧ Timely timeout stage.clocks

/-- The stage after a reply. -/
def next (stage : AskStage) : (op : Op) → op.Reply → AskStage
  | .register messageId channel, ticket =>
      { stage with held := stage.held ++ [(ticket, ⟨messageId, channel⟩)] }
  | .unregister _, _ => { stage with held := stage.held.dropLast }
  | .awaitResponse .., .ok message => { stage with taken := stage.taken ++ [message] }
  | .awaitResponse .., .error _ => { stage with failed := true }
  | .mayWrite, open? => { stage with failed := stage.failed || !open? }
  | .write _, written =>
      { stage with written := true, failed := stage.failed || !written.isOk }
  | .now, reading => { stage with clocks := stage.clocks ++ [reading] }
  | _, _ => stage

/-- A call that goes on waiting needs what it holds no more. -/
def Spares (call : Call) (stage : AskStage) : Prop :=
  call.verdict? stage.taken = none → stage.Calm call.patience →
    call.expects.length < stage.held.length + stage.taken.length

/-- What a call may do at a stage. What expects something registers all of it before it writes its
one frame, and waits for nothing else: with all it holds, for one message less than before each
time, and for its own time. -/
def Allows (call : Call) (stage : AskStage) : Op → Prop
  | .register messageId channel =>
      stage.written = false ∧ stage.held.map Prod.snd ++ [⟨messageId, channel⟩] <+: call.expects
  | .unregister ticket => stage.held.getLast?.map Prod.fst = some ticket ∧ stage.Spares call
  | .awaitResponse first second _ deadline =>
      stage.held.map Prod.fst = first :: second.toList ∧
        stage.held.length + stage.taken.length = call.expects.length ∧
        call.verdict? stage.taken = none ∧
        (stage.Calm call.patience → ∀ limit ∈ deadline, call.patience ≠ 0 ∧
          ∃ start ∈ stage.clocks.head?, start + call.patience ≤ limit)
  | .mayWrite => call.expects ≠ [] → stage.written = false
  | .write _ => call.expects ≠ [] →
      stage.held.length = call.expects.length ∧ stage = { held := stage.held }
  | .beginTransfer .. | .awaitOutcome .. | .awaitStopped | .joinRouter => call.expects = []
  | _ => True

/-- The call is bound to fail with an error. -/
def Fails (call : Call) (error : CallError) (stage : AskStage) : Prop :=
  call.verdict? stage.taken = some (.error error) ∨
    ¬ stage.Calm call.patience ∧ error.Interrupts

/-- A call that has taken one message and holds one ticket. -/
def answered (entry : Ticket × Expectation) (message : Message) (clocks : List Nat) : AskStage where
  held := [entry]
  taken := [message]
  clocks := clocks
  written := true

theorem fails_of_failed {call : Call} {stage : AskStage} {error : CallError}
    (hfailed : stage.failed = true) (hinterrupts : error.Interrupts) :
    stage.Fails call error := by
  refine .inr ⟨fun hcalm => ?_, hinterrupts⟩
  rw [hcalm.2.1] at hfailed
  cases hfailed

theorem Fails.spares {call : Call} {stage : AskStage} {error : CallError}
    (hfails : stage.Fails call error) : stage.Spares call := by
  intro hnone hcalm
  rcases hfails with hverdict | ⟨hnot, _⟩
  · rw [hnone] at hverdict
    cases hverdict
  · exact absurd hcalm hnot

end AskStage

/-- How a call ends: without anything registered, and if it expected something with the verdict of
what it took, or interrupted. -/
def Call.Concludes (call : Call) (result : Except CallError Reply) (stage : AskStage) : Prop :=
  stage.held = [] ∧ (call.expects ≠ [] →
    call.verdict? stage.taken = some result ∨
      ∃ error, result = .error error ∧ stage.Fails call error)

/-- The conduct of calls towards the tracker. -/
def askConduct : Conduct AskStage where
  idle := {}
  enter _ := {}
  allows := AskStage.Allows
  next := AskStage.next
  ends := Call.Concludes

namespace Action

variable {α : Type} {call : Call} {stage : AskStage}

/-! ## Calls that expect nothing -/

theorem keeps_of_sends {own : UInt8 → TransferKind → Prop} {carries : List UInt8 → Prop}
    {action : Action α} (hexpects : call.expects = []) (honly : action.Only (Op.Sends own carries))
    (hheld : stage.held = []) :
    action.Keeps (askConduct.protocol call) (fun _ later => later.held = [])
      (fun _ later => later.held = []) stage := by
  refine Only.keeps honly ?_ hheld
  intro later op hlater hop
  cases op with
  | register | unregister | awaitResponse => cases hop
  | mayWrite | write => exact ⟨fun hsome => absurd hexpects hsome, fun _ => hlater⟩
  | beginTransfer | awaitOutcome | awaitStopped | joinRouter => exact ⟨hexpects, fun _ => hlater⟩
  | _ => exact ⟨trivial, fun _ => hlater⟩

/-! ## The parts of calls that expect something -/

theorem keeps_policyFor (config : Config) (timeout : Nat) :
    (policyFor config timeout).Keeps (askConduct.protocol call)
      (fun policy later => later = stage ∧ policy.timeout = timeout) (fun _ _ => False) stage :=
  keeps_perform.mpr ⟨trivial, fun _ => ⟨rfl, rfl⟩⟩

theorem keeps_clock :
    clock.Keeps (askConduct.protocol call)
      (fun reading later => later = { stage with clocks := stage.clocks ++ [reading] })
      (fun _ _ => False) stage :=
  keeps_perform.mpr ⟨trivial, fun _ => rfl⟩

/-- A frame is written once everything is registered, or the call is interrupted. -/
theorem keeps_writeFramed (frame : Except FramingError (List UInt8))
    {held : List (Ticket × Expectation)} (hheld : held.length = call.expects.length) :
    (writeFramed frame).Keeps (askConduct.protocol call)
      (fun _ later => later = { held, written := true })
      (fun error later => later.held = held ∧ later.Fails call error) { held } := by
  cases frame with
  | error error => exact ⟨rfl, .inr ⟨nofun, nofun⟩⟩
  | ok frame =>
      refine keeps_perform.mpr ⟨fun _ => rfl, ?_⟩
      rintro (_ | _)
      · exact ⟨rfl, AskStage.fails_of_failed rfl nofun⟩
      · refine keeps_perform.mpr ⟨fun _ => ⟨hheld, rfl⟩, ?_⟩
        rintro (error | ⟨⟩)
        · exact ⟨rfl, AskStage.fails_of_failed rfl nofun⟩
        · rfl

/-- A wait ends with one more message, or fails. -/
theorem keeps_awaitResponse {first : Ticket} {second : Option Ticket} {policy : WaitPolicy}
    (hheld : stage.held.map Prod.fst = first :: second.toList)
    (hcount : stage.held.length + stage.taken.length = call.expects.length)
    (hverdict : call.verdict? stage.taken = none)
    (hdeadline : ∀ reading, Timely call.patience (stage.clocks ++ [reading]) →
      policy.timeout ≠ 0 → call.patience ≠ 0 ∧ policy.timeout ≤ call.patience ∧
        ∃ start ∈ (stage.clocks ++ [reading]).head?,
          start + call.patience ≤ reading + policy.timeout) :
    (awaitResponse first second policy).Keeps (askConduct.protocol call)
      (fun message later => ∃ reading, later =
        { stage with clocks := stage.clocks ++ [reading], taken := stage.taken ++ [message] })
      (fun error later => later.held = stage.held ∧ later.Fails call error) stage := by
  rw [awaitResponse, keeps_bind]
  refine keeps_clock.mono ?_ fun _ _ hfalse => hfalse.elim
  rintro reading _ rfl
  refine keeps_deadlineFrom (fun deadline hfits => ?_) fun _ hover => ?_
  · refine keeps_perform.mpr ⟨⟨hheld, hcount, hverdict, fun hcalm limit hlimit => ?_⟩, ?_⟩
    · rcases WaitPolicy.deadline_eq_ok_iff.mp hfits with ⟨_, rfl⟩ | ⟨htimeout, _, rfl⟩
      · cases hlimit
      · cases hlimit
        obtain ⟨hfinite, _, hstart⟩ := hdeadline reading hcalm.2.2 htimeout
        exact ⟨hfinite, hstart⟩
    · rintro (error | message)
      · exact ⟨rfl, AskStage.fails_of_failed rfl (CallError.interrupts_ofWait error)⟩
      · exact ⟨reading, rfl⟩
  · -- The wait is for no more than the call's own time, and the clock can hold that.
    refine ⟨rfl, .inr ⟨fun hcalm => ?_, nofun⟩⟩
    obtain ⟨htimeout, hend⟩ := WaitPolicy.deadline_eq_error_iff.mp hover
    obtain ⟨hfinite, hle, start, hstart, _⟩ := hdeadline reading hcalm.2.2 htimeout
    have hmem : reading ∈ stage.clocks ++ [reading] :=
      List.mem_append_right _ (List.mem_singleton_self _)
    have hholds := ((hcalm.2.2.2 start hstart reading hmem).resolve_left hfinite).2
    omega

/-- What is registered for a body is given up after it. -/
theorem keeps_expecting {messageId : UInt8} {channel : Option UInt8} {body : Ticket → Action α}
    {good : α → AskStage → Prop} (hwritten : stage.written = false)
    (hregisters : stage.held.map Prod.snd ++ [⟨messageId, channel⟩] <+: call.expects)
    (hbody : ∀ ticket, (body ticket).Keeps (askConduct.protocol call)
      (fun value later => later.held = stage.held ++ [(ticket, ⟨messageId, channel⟩)] ∧
        later.Spares call ∧ good value { later with held := stage.held })
      (fun error later => later.held = stage.held ++ [(ticket, ⟨messageId, channel⟩)] ∧
        later.Fails call error)
      { stage with held := stage.held ++ [(ticket, ⟨messageId, channel⟩)] }) :
    (expecting messageId channel body).Keeps (askConduct.protocol call) good
      (fun error later => later.held = stage.held ∧ later.Fails call error) stage := by
  refine keeps_perform.mpr ⟨⟨hwritten, hregisters⟩, fun ticket => ?_⟩
  have hdrop : ∀ later : AskStage, later.held = stage.held ++ [(ticket, ⟨messageId, channel⟩)] →
      later.held.getLast?.map Prod.fst = some ticket ∧
        later.held.dropLast = stage.held := by
    intro later hheld
    rw [hheld, List.getLast?_concat, List.dropLast_concat]
    exact ⟨rfl, rfl⟩
  refine (keeps_andLast rfl).mpr ((hbody ticket).mono ?_ ?_)
  · rintro value later ⟨hheld, hspares, hgood⟩
    obtain ⟨hlast, hnext⟩ := hdrop later hheld
    refine ⟨⟨hlast, hspares⟩, fun _ => ?_⟩
    change good value { later with held := later.held.dropLast }
    rw [hnext]
    exact hgood
  · rintro error later ⟨hheld, hfails⟩
    obtain ⟨hlast, hnext⟩ := hdrop later hheld
    exact ⟨⟨hlast, hfails.spares⟩, fun _ => ⟨hnext, hfails⟩⟩

/-! ## Every call keeps the conduct -/

/-- A command is written and one response taken. -/
theorem keeps_ask (config : Config) (command : Command) {timeout : Nat} {ticket : Ticket}
    {expectation : Expectation} (hexpects : call.expects = [expectation])
    (hpatience : call.patience = timeout) (hverdict : call.verdict? [] = none) :
    Keeps (askConduct.protocol call)
      (fun response later => ∃ reading,
        later = .answered (ticket, expectation) response [reading])
      (fun error later => later.held = [(ticket, expectation)] ∧ later.Fails call error)
      (do
        sendCommand config command
        let policy ← policyFor config timeout
        awaitResponse ticket none policy)
      { held := [(ticket, expectation)] } := by
  have hlength : [(ticket, expectation)].length = call.expects.length := by rw [hexpects]; rfl
  rw [keeps_bind]
  refine (keeps_writeFramed _ hlength).mono ?_ fun _ _ hfails => hfails
  rintro _ _ rfl
  rw [keeps_bind]
  refine (keeps_policyFor config timeout).mono ?_ fun _ _ hfalse => hfalse.elim
  rintro policy _ ⟨rfl, hpolicy⟩
  refine keeps_awaitResponse rfl hlength hverdict fun reading _ htimeout => ?_
  rw [hpolicy] at htimeout ⊢
  rw [hpatience]
  exact ⟨htimeout, Nat.le_refl _, reading, rfl, Nat.le_refl _⟩

theorem keeps_confirmCommand (config : Config) (command : Command) (timeout : Nat) :
    (confirmCommand config command timeout).Keeps
      (askConduct.protocol (.command command (some timeout)))
      (fun _ later => later.held = [] ∧
        (Call.command command (some timeout)).verdict? later.taken = some (.ok .done))
      (fun error later => later.held = [] ∧ later.Fails (.command command (some timeout)) error)
      {} := by
  rw [confirmCommand, keeps_bind]
  refine keeps_expecting rfl List.prefix_rfl fun ticket => ?_
  refine (keeps_ask config command rfl rfl rfl).mono ?_ fun _ _ hfails => hfails
  rintro response _ ⟨reading, rfl⟩
  refine ⟨rfl, nofun, ?_⟩
  unfold checkResponse
  split
  next hcode => exact ⟨rfl, congrArg some (if_pos hcode)⟩
  next hcode => exact ⟨rfl, .inl (congrArg some (if_neg hcode))⟩

theorem keeps_confirmReset (config : Config) (timeout : Nat) :
    (confirmReset config timeout).Keeps (askConduct.protocol (.reset (some timeout)))
      (fun message later => later.held = [] ∧
        (Call.reset (some timeout)).verdict? later.taken = some (.ok (.message message)))
      (fun error later => later.held = [] ∧ later.Fails (.reset (some timeout)) error) {} := by
  refine keeps_expecting rfl List.prefix_rfl fun ticket => ?_
  refine (keeps_ask config .resetSystem rfl rfl rfl).mono ?_ fun _ _ hfails => hfails
  rintro message _ ⟨reading, rfl⟩
  exact ⟨rfl, nofun, rfl, rfl⟩

/-- What is left of the time is over with the call's own time. -/
theorem keeps_remainingSince {policy : WaitPolicy} {start : Nat}
    (hstart : stage.clocks.head? = some start) (hpolicy : policy.timeout = call.patience) :
    (remainingSince policy start).Keeps (askConduct.protocol call)
      (fun left later => ∃ reading, later = { stage with clocks := stage.clocks ++ [reading] } ∧
        left.timeout = call.patience - (reading - start))
      (fun error later => later.held = stage.held ∧ later.Fails call error) stage := by
  rw [remainingSince, keeps_bind]
  refine keeps_clock.mono ?_ fun _ _ hfalse => hfalse.elim
  rintro reading _ rfl
  rw [WaitPolicy.remaining, hpolicy]
  split
  next hzero => exact ⟨reading, rfl, by rw [hpolicy, hzero, Nat.zero_sub]⟩
  next hzero =>
    split
    next => exact ⟨reading, rfl, rfl⟩
    next helapsed =>
      refine ⟨rfl, .inr ⟨fun hcalm => ?_, nofun⟩⟩
      have hhead : start ∈ (stage.clocks ++ [reading]).head? := by
        rw [List.head?_append, hstart]
        rfl
      have hmem : reading ∈ stage.clocks ++ [reading] :=
        List.mem_append_right _ (List.mem_singleton_self _)
      rcases hcalm.2.2.2 start hhead reading hmem with hforever | ⟨hearly, _⟩
      · exact hzero hforever
      · omega

section Request

variable {channel messageId : UInt8} {timeout : Nat} {pending refusal : Ticket}

/-- The first wait ends with the answer, or with an acceptance. -/
theorem keeps_firstWait (config : Config) :
    Keeps (askConduct.protocol (.request channel messageId (some timeout)))
      (fun found later => ∃ reading,
        later = .answered (pending, ⟨messageId, requestScope channel messageId⟩) found.1
          [found.2.2, reading] ∧
        found.2.1.timeout = timeout ∧ (isAnswer messageId found.1 = true ∨
          found.1.byteAt 2 = EventCode.responseNoError.value))
      (fun error later => later.held = [(pending, ⟨messageId, requestScope channel messageId⟩)] ∧
        later.Fails (.request channel messageId (some timeout)) error)
      (expecting MessageId.requestMessage.value (some channel) fun refusal => do
        sendCommand config (.requestMessage channel messageId)
        let start ← clock
        let policy ← policyFor config timeout
        let message ← awaitResponse pending (some refusal) policy
        if isAnswer messageId message then pure ()
        else checkResponse message
        return (message, policy, start))
      { held := [(pending, ⟨messageId, requestScope channel messageId⟩)] } := by
  refine keeps_expecting rfl List.prefix_rfl fun refusal => ?_
  rw [keeps_bind]
  refine (keeps_writeFramed _ rfl).mono ?_ fun _ _ hfails => hfails
  rintro _ _ rfl
  rw [keeps_bind]
  refine keeps_clock.mono ?_ fun _ _ hfalse => hfalse.elim
  rintro start _ rfl
  rw [keeps_bind]
  refine (keeps_policyFor config timeout).mono ?_ fun _ _ hfalse => hfalse.elim
  rintro policy _ ⟨rfl, hpolicy⟩
  rw [keeps_bind]
  refine (keeps_awaitResponse rfl rfl rfl fun reading htimely htimeout => ?_).mono ?_
    fun _ _ hfails => hfails
  · rw [hpolicy] at htimeout ⊢
    have hle : start ≤ reading := (List.pairwise_cons.mp htimely.1).1 reading (by simp)
    exact ⟨htimeout, Nat.le_refl _, start, rfl, Nat.add_le_add_right hle timeout⟩
  · rintro message _ ⟨reading, rfl⟩
    have hspares : ∀ clocks, AskStage.Spares (.request channel messageId (some timeout))
        { held := [(pending, ⟨messageId, requestScope channel messageId⟩),
            (refusal, ⟨MessageId.requestMessage.value, some channel⟩)]
          taken := [message], clocks, written := true } :=
      fun _ _ _ => Nat.lt_succ_self 2
    dsimp only
    split
    next hanswer => exact ⟨rfl, hspares _, reading, rfl, hpolicy, .inl hanswer⟩
    next hanswer =>
      rw [keeps_bind, checkResponse]
      split
      next hcode => exact ⟨rfl, hspares _, reading, rfl, hpolicy, .inr hcode⟩
      next hcode =>
        exact ⟨rfl, .inl ((if_neg hanswer).trans (if_neg hcode))⟩

/-- After an acceptance the second wait ends with whatever comes next. -/
theorem keeps_secondWait {message : Message} {policy : WaitPolicy} {start reading : Nat}
    (hpolicy : policy.timeout = timeout) (hmessage : isAnswer messageId message = true ∨
      message.byteAt 2 = EventCode.responseNoError.value) :
    Keeps (askConduct.protocol (.request channel messageId (some timeout)))
      (fun reply later =>
        later.held = [(pending, ⟨messageId, requestScope channel messageId⟩)] ∧
        (Call.request channel messageId (some timeout)).verdict? later.taken =
          some (.ok (.message reply)))
      (fun error later => later.held = [(pending, ⟨messageId, requestScope channel messageId⟩)] ∧
        later.Fails (.request channel messageId (some timeout)) error)
      (if isAnswer messageId message then return message
      else do
        let left ← remainingSince policy start
        awaitResponse pending none left)
      (.answered (pending, ⟨messageId, requestScope channel messageId⟩) message
        [start, reading]) := by
  split
  next hanswer => exact ⟨rfl, if_pos hanswer⟩
  next hanswer =>
    have hnone : (Call.request channel messageId (some timeout)).verdict? [message] = none :=
      (if_neg hanswer).trans (if_pos (hmessage.resolve_left hanswer))
    rw [keeps_bind]
    refine (keeps_remainingSince rfl hpolicy).mono ?_ fun _ _ hfails => hfails
    rintro left _ ⟨third, rfl, hleft⟩
    refine Keeps.mono (keeps_awaitResponse rfl rfl hnone fun fourth htimely htimeout => ?_) ?_
      fun _ _ hfails => hfails
    · -- The clock is read again before the wait, so its deadline is no earlier than the call's own.
      rw [hleft] at htimeout ⊢
      have hsorted : [start, reading, third, fourth].Pairwise (· ≤ ·) := htimely.1
      simp only [List.pairwise_cons, List.mem_cons, forall_eq_or_imp] at hsorted
      refine ⟨fun hforever => htimeout ?_, Nat.sub_le _ _, start, rfl, ?_⟩
      · rw [hforever, Nat.zero_sub]
      · omega
    · rintro reply _ ⟨fourth, rfl⟩
      exact ⟨rfl, rfl⟩

theorem keeps_requestMessage (config : Config) (channel messageId : UInt8) (timeout : Nat) :
    (requestMessage config channel messageId timeout).Keeps
      (askConduct.protocol (.request channel messageId (some timeout)))
      (fun reply later => later.held = [] ∧
        (Call.request channel messageId (some timeout)).verdict? later.taken =
          some (.ok (.message reply)))
      (fun error later => later.held = [] ∧
        later.Fails (.request channel messageId (some timeout)) error) {} := by
  refine keeps_expecting rfl ⟨_, rfl⟩ fun pending => ?_
  rw [keeps_bind]
  refine (keeps_firstWait config).mono ?_ fun _ _ hfails => hfails
  rintro ⟨message, policy, start⟩ _ ⟨reading, rfl, hpolicy, hmessage⟩
  refine (keeps_secondWait hpolicy hmessage).mono ?_ fun _ _ hfails => hfails
  rintro reply later ⟨hheld, hverdict⟩
  refine ⟨hheld, fun hnone => ?_, rfl, hverdict⟩
  rw [hverdict] at hnone
  cases hnone

end Request

end Action

namespace Call

open AntHost.Action

variable {call : Call}

/-- The transfer a call takes the monitor for. -/
def transfer? : Call → Option (UInt8 × TransferKind)
  | broadcast channel _ (some _) => some (channel, .broadcast)
  | acknowledged channel _ (some _) => some (channel, .acknowledged)
  | burst channel _ _ => some (channel, .burst)
  | _ => none

/-- What a call without expectations may do: take the monitor for its own transfer, and with a
transfer write frames that name its channel. -/
def Sends (call : Call) : Op → Prop :=
  Op.Sends (fun channel kind => call.transfer? = some (channel, kind)) fun frame =>
    ∀ transfer ∈ call.transfer?, frameChannel? frame = some (transfer.1 &&& channelMask)

theorem sends_of_free {action : Action Unit} (hfree : call.transfer? = none)
    (honly : ∀ own carries, (∀ frame, carries frame) → action.Only (Op.Sends own carries)) :
    (acknowledge action).Only call.Sends := by
  refine only_bind (honly _ _ fun frame transfer htransfer => ?_) fun _ => only_pure
  rw [hfree] at htransfer
  cases htransfer

/-- A call that expects nothing leaves the tracker alone and uses the monitor for its own transfer
only. -/
theorem sends (config : Config) (onRouter : Bool) (hexpects : call.expects = []) :
    (call.action config onRouter).Only call.Sends := by
  have hwrites : ∀ frame own carries, (∀ bytes, carries bytes) →
      (writeFramed frame).Only (Op.Sends own carries) :=
    fun frame own carries hcarries =>
      sends_of_transmits (transmits_writeFramed fun bytes _ => hcarries bytes)
  cases call with
  | command body timeout | reset timeout | request channel messageId timeout =>
      cases timeout with
      | none => exact sends_of_free rfl (hwrites _)
      | some timeout => cases hexpects
  | raw id payload => exact sends_of_free rfl (hwrites _)
  | broadcast channel data timeout | acknowledged channel data timeout =>
      cases timeout with
      | none => exact sends_of_free rfl (hwrites _)
      | some timeout =>
          refine only_acknowledge (sends_of_transmits (transmits_confirmData config timeout rfl ?_))
          rintro _ ⟨⟩
          exact frameChannel?_frameBytes _ channel data.toList
  | burst channel data timeout =>
      have hframes : ∀ packet ∈ BurstPacket.split channel data,
          ∀ transfer ∈ (burst channel data timeout).transfer?,
            frameChannel? packet.frame = some (transfer.1 &&& channelMask) := by
        rintro packet hpacket _ ⟨⟩
        exact (frameChannel?_frameBytes _ packet.channelSequence _).trans
          (congrArg some (BurstPacket.channel_of_mem_splitFrom hpacket))
      cases timeout with
      | none =>
          exact only_acknowledge (sends_of_transmits (transmits_sendBurst config rfl hframes))
      | some timeout =>
          exact only_acknowledge
            (sends_of_transmits (transmits_confirmBurst config timeout rfl hframes))
  | close => exact sends_of_free rfl fun own carries _ => sends_closeSession onRouter

theorem concludes_of_keeps {action : Action Reply}
    (hkeeps : action.Keeps (askConduct.protocol call)
      (fun reply later => later.held = [] ∧ call.verdict? later.taken = some (.ok reply))
      (fun error later => later.held = [] ∧ later.Fails call error) {}) :
    action.run.Keeps (askConduct.protocol call) call.Concludes {} := by
  refine Program.Keeps.mono hkeeps ?_
  rintro (error | reply) later ⟨hheld, hend⟩
  · exact ⟨hheld, fun _ => .inr ⟨error, rfl, hend⟩⟩
  · exact ⟨hheld, fun _ => .inl hend⟩

theorem keeps_fetch {action : Action Message} {good : Reply → AskStage → Prop}
    {bad : CallError → AskStage → Prop} {stage : AskStage}
    (hkeeps : action.Keeps (askConduct.protocol call)
      (fun message later => good (.message message) later) bad stage) :
    (fetch action).Keeps (askConduct.protocol call) good bad stage :=
  keeps_bind.mpr hkeeps

/-- Every call asks for its responses as it should. -/
theorem asks : askConduct.Sound := by
  intro config onRouter call
  by_cases hexpects : call.expects = []
  · have hkeeps := @keeps_of_sends _ call {} _ _ _ hexpects (sends config onRouter hexpects) rfl
    refine Program.Keeps.mono hkeeps ?_
    rintro (error | reply) later hheld
    · exact ⟨hheld, fun hsome => absurd hexpects hsome⟩
    · exact ⟨hheld, fun hsome => absurd hexpects hsome⟩
  · cases call with
    | command body timeout =>
        cases timeout with
        | none => exact absurd rfl hexpects
        | some timeout =>
            exact concludes_of_keeps (keeps_acknowledge (keeps_confirmCommand config body timeout))
    | reset timeout =>
        cases timeout with
        | none => exact absurd rfl hexpects
        | some timeout => exact concludes_of_keeps (keeps_fetch (keeps_confirmReset config timeout))
    | request channel messageId timeout =>
        cases timeout with
        | none => exact absurd rfl hexpects
        | some timeout =>
            exact concludes_of_keeps
              (keeps_fetch (keeps_requestMessage config channel messageId timeout))
    | _ => exact absurd rfl hexpects

end Call

end AntHost
