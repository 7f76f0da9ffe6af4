import AntHost.Proofs.Session.Heard
/-!
# What calls return

A call that waits returns what messages say that were routed while it was in progress and that it
had registered for. A registration does not tell a response from another message under the same
identifier, so a command may be accepted, and a request answered, by a message that is neither.
-/

namespace AntHost

variable {H β : Type}

/-! ## Messages and what they answer -/

namespace Message

/-- The device's response to a command: its code is there, and it names the command's channel. -/
structure RespondsTo (message : Message) (command : Command) : Prop where
  id : message.id = 0x40
  answered : message.byteAt 1 = command.messageId.value
  channel : ∀ own ∈ command.channel?, message.byteAt 0 &&& 0x1F = own
  code : 3 ≤ message.size

/-- What passes for a response to a command without being one: any other message under the
command's own identifier, or a response that ends before its code. -/
structure MistakenFor (message : Message) (command : Command) : Prop where
  id : message.id = command.messageId.value ∧ message.dataDelivery? = none ∨
    message.id = 0x40 ∧ message.byteAt 1 = command.messageId.value ∧ message.size = 2
  channel : ∀ own ∈ command.channel?, message.byteAt 0 &&& 0x1F = own

/-- The answer to a request: messages that start with a channel must name the right one. -/
structure Answers (message : Message) (channel messageId : UInt8) : Prop where
  id : message.id = messageId
  channel : messageId = 0x51 ∨ messageId = 0x52 → message.byteAt 0 &&& 0x1F = channel

theorem lt_size_of_byteAt {message : Message} {index : Nat} (hbyte : message.byteAt index ≠ 0) :
    index < message.size := by
  by_contra hshort
  rw [byteAt, List.getD_eq_getElem?_getD, List.getElem?_eq_none (Nat.le_of_not_lt hshort)] at hbyte
  exact hbyte rfl

end Message

theorem Action.requestScope_eq (channel messageId : UInt8) :
    requestScope channel messageId =
      if messageId = 0x51 ∨ messageId = 0x52 then some channel else none := by
  rw [requestScope]
  cases hid : MessageId.ofByte? messageId with
  | none =>
      have hunknown : ∀ id : MessageId, messageId ≠ id.value := by
        rintro id rfl
        rw [MessageId.ofByte?_value] at hid
        cases hid
      have hplain : ¬ (messageId = 0x51 ∨ messageId = 0x52) :=
        not_or.mpr ⟨hunknown .channelId, hunknown .channelStatus⟩
      rw [if_neg hplain]
      rfl
  | some id =>
      rw [← MessageId.value_of_ofByte? hid]
      cases id <;> rfl

theorem Expectation.MetBy.channel_eq {expectation : Expectation} {message : Message}
    (hmet : expectation.MetBy message) {own : UInt8} (hown : own ∈ expectation.channel) :
    message.byteAt 0 &&& 0x1F = own := by
  obtain ⟨channel, hoffered, hscope⟩ := hmet
  obtain ⟨_, rfl, _⟩ := Message.offered?_eq_some_iff.mp hoffered
  rcases hscope with hnone | hsome
  · rw [hnone] at hown
    cases hown
  · rw [hsome] at hown
    cases hown
    rfl

theorem Command.messageId_ne_zero (command : Command) : command.messageId.value ≠ 0 := by
  rw [messageId]
  cases command.kind <;> decide

/-- What a request registers is met by its answer, or by a response to a command that has the
identifier of the answer. -/
theorem Message.answers_or_response {message : Message} {channel messageId : UInt8}
    (hmet : Expectation.MetBy ⟨messageId, Action.requestScope channel messageId⟩ message) :
    (messageId = 0x51 ∨ messageId = 0x52 → message.byteAt 0 &&& 0x1F = channel) ∧
      (message.Answers channel messageId ∨
        message.id = 0x40 ∧ message.byteAt 1 = messageId) := by
  have hchannel : messageId = 0x51 ∨ messageId = 0x52 → message.byteAt 0 &&& 0x1F = channel := by
    intro hscoped
    refine hmet.channel_eq ?_
    rw [Action.requestScope_eq, if_pos hscoped]
    rfl
  refine ⟨hchannel, ?_⟩
  obtain ⟨_, hoffered, _⟩ := hmet
  obtain ⟨_, _, ⟨hid, hanswered, _⟩ | ⟨hid, _, _⟩⟩ := offered?_eq_some_iff.mp hoffered
  · exact .inr ⟨hid, hanswered⟩
  · exact .inl ⟨hid, hchannel⟩

/-- What a command registers is met by its response, or by what passes for it. -/
theorem Message.respondsTo_or_mistakenFor {message : Message} {command : Command}
    (hmet : Expectation.MetBy ⟨command.messageId.value, command.channel?⟩ message) :
    message.RespondsTo command ∨ message.MistakenFor command := by
  have hchannel : ∀ own ∈ command.channel?, message.byteAt 0 &&& 0x1F = own :=
    fun own hown => hmet.channel_eq hown
  obtain ⟨channel, hoffered, _⟩ := hmet
  obtain ⟨_, _, ⟨hid, hanswered, _⟩ | ⟨hid, _, hdata⟩⟩ := offered?_eq_some_iff.mp hoffered
  · have hbyte : message.byteAt 1 ≠ 0 := by
      rw [hanswered]
      exact command.messageId_ne_zero
    by_cases hcode : 3 ≤ message.size
    · exact .inl ⟨hid, hanswered, hchannel, hcode⟩
    · have hsize := lt_size_of_byteAt hbyte
      exact .inr ⟨.inr ⟨hid, hanswered, by omega⟩, hchannel⟩
  · exact .inr ⟨.inl ⟨hid, hdata⟩, hchannel⟩

/-! ## Verdicts -/

namespace Call

variable {call : Call} {stage : AskStage}

theorem Concludes.verdict_of_ok {reply : Reply} (hconcludes : call.Concludes (.ok reply) stage)
    (hexpects : call.expects ≠ []) : call.verdict? stage.taken = some (.ok reply) := by
  rcases hconcludes.2 hexpects with hverdict | ⟨error, herror, _⟩
  · exact hverdict
  · cases herror

theorem Concludes.verdict_of_rejected {messageId code : UInt8}
    (hconcludes : call.Concludes (.error (.rejected messageId code)) stage)
    (hexpects : call.expects ≠ []) :
    call.verdict? stage.taken = some (.error (.rejected messageId code)) := by
  rcases hconcludes.2 hexpects with hverdict | ⟨error, herror, hverdict | ⟨_, hinterrupts⟩⟩
  · exact hverdict
  · cases herror
    exact hverdict
  · cases herror
    exact absurd rfl (hinterrupts messageId code)

theorem judge_eq_ok {response : Message} {reply : Reply} (hjudge : judge response = .ok reply) :
    response.byteAt 2 = 0 := by
  rw [judge] at hjudge
  split at hjudge
  next hcode => exact hcode
  next => cases hjudge

theorem judge_eq_rejected {response : Message} {messageId code : UInt8}
    (hjudge : judge response = .error (.rejected messageId code)) :
    response.byteAt 1 = messageId ∧ response.byteAt 2 = code ∧ code ≠ 0 := by
  rw [judge] at hjudge
  split at hjudge
  next => cases hjudge
  next hcode =>
    cases hjudge
    exact ⟨rfl, rfl, hcode⟩

/-- A command judges the one message it took. -/
theorem taken_of_verdict_command {command : Command} {timeout : Option Nat} {taken : List Message}
    {result : Except CallError Reply}
    (hverdict : (Call.command command timeout).verdict? taken = some result) :
    ∃ response, taken = [response] ∧ judge response = result := by
  match taken with
  | [] => cases hverdict
  | [response] => exact ⟨response, rfl, Option.some.inj hverdict⟩
  | _ :: _ :: _ => cases hverdict

/-- A request returns the first message it took if that is no response, fails with a refusal, and
after an acceptance returns what it took next. -/
theorem verdict_request_cases {channel messageId : UInt8} {timeout : Option Nat}
    {taken : List Message} {result : Except CallError Reply}
    (hverdict : (Call.request channel messageId timeout).verdict? taken = some result) :
    (∃ message, taken = [message] ∧ Action.isAnswer messageId message = true ∧
        result = .ok (.message message)) ∨
      (∃ refusal, taken = [refusal] ∧ ¬ Action.isAnswer messageId refusal ∧
        refusal.byteAt 2 ≠ 0 ∧
        result = .error (.rejected (refusal.byteAt 1) (refusal.byteAt 2))) ∨
      ∃ acceptance message, taken = [acceptance, message] ∧ result = .ok (.message message) := by
  match taken with
  | [] => cases hverdict
  | [message] =>
      change (if _ then _ else _) = _ at hverdict
      split at hverdict
      next hanswer =>
        cases hverdict
        exact .inl ⟨message, rfl, hanswer, rfl⟩
      next hanswer =>
        split at hverdict
        next => cases hverdict
        next hcode =>
          cases hverdict
          exact .inr (.inl ⟨message, rfl, hanswer, hcode, rfl⟩)
  | [acceptance, message] =>
      cases hverdict
      exact .inr (.inr ⟨acceptance, message, rfl, rfl⟩)
  | _ :: _ :: _ :: _ => cases hverdict

/-- Only an acceptance leaves a request undecided. -/
theorem accepted_of_verdict_request {channel messageId : UInt8} {timeout : Option Nat}
    {message : Message}
    (hverdict : (Call.request channel messageId timeout).verdict? [message] = none) :
    message.id = 0x40 ∧ message.byteAt 2 = 0 := by
  change (if _ then _ else _) = _ at hverdict
  split at hverdict
  next => cases hverdict
  next hanswer =>
    split at hverdict
    next hcode =>
      rw [Action.isAnswer, Bool.or_eq_true, not_or, bne_iff_ne, not_not] at hanswer
      exact ⟨hanswer.1, hcode⟩
    next => cases hverdict

end Call

/-! ## What calls return in every interleaving -/

namespace Machine

variable [DecidableEq β]

/-- A command is accepted or rejected only by a message that was routed while it waited: its
response, or what passes for one. -/
theorem run_command_heard (config : Config) (events : List (Event H β)) (machine : Machine H β)
    (hrun : (start config).run events = some machine)
    (hfew : (start config : Machine H β).registrations events < UInt64.size)
    (thread : Nat) (command : Command) (timeout : Nat)
    (hcall : (calls events)[thread]? = some (.command command (some timeout))) :
    (∀ reply, machine.result? thread = some (.ok reply) →
      ∃ message, Heard config events thread message ∧ message.byteAt 2 = 0 ∧
        (message.RespondsTo command ∨ message.MistakenFor command)) ∧
    ∀ messageId code, machine.result? thread = some (.error (.rejected messageId code)) →
      ∃ message, Heard config events thread message ∧ message.byteAt 1 = messageId ∧
        message.byteAt 2 = code ∧ code ≠ 0 ∧
        (message.RespondsTo command ∨ message.MistakenFor command) := by
  obtain ⟨stages, hconducted, hattended⟩ := exists_attended hrun hfew
  have hattends := hattended thread _ hcall
  have hheard : ∀ response, (stages thread).taken = [response] →
      Heard config events thread response ∧
        (response.RespondsTo command ∨ response.MistakenFor command) := by
    intro response htaken
    obtain ⟨expectation, hmem, hmet, hheard⟩ := hattends.taken 0 response (by rw [htaken]; rfl)
    cases List.mem_singleton.mp hmem
    exact ⟨hheard, Message.respondsTo_or_mistakenFor hmet⟩
  constructor
  · intro reply hresult
    have hverdict := (hconducted.ends hcall hresult).verdict_of_ok (List.cons_ne_nil _ _)
    obtain ⟨response, htaken, hjudge⟩ := Call.taken_of_verdict_command hverdict
    obtain ⟨hrouted, hresponse⟩ := hheard response htaken
    exact ⟨response, hrouted, Call.judge_eq_ok hjudge, hresponse⟩
  · intro messageId code hresult
    have hverdict := (hconducted.ends hcall hresult).verdict_of_rejected (List.cons_ne_nil _ _)
    obtain ⟨response, htaken, hjudge⟩ := Call.taken_of_verdict_command hverdict
    obtain ⟨hrouted, hresponse⟩ := hheard response htaken
    obtain ⟨hid, hcode, hnonzero⟩ := Call.judge_eq_rejected hjudge
    exact ⟨response, hrouted, hid, hcode, hnonzero, hresponse⟩

/-- A command that is rejected, and then accepted. -/
def rejectedFirst : List (Event Unit Unit) :=
  let channelId : Command := .channelId 0 ⟨49, 1, 1⟩
  .begin (.command channelId (some 100)) false :: List.replicate 5 (.perform 0 (.ok ())) ++
    .route ⟨0x40, [0, 0x51, 0x15], by decide⟩ :: List.replicate 2 (.perform 0 (.ok ())) ++
    .begin (.command channelId (some 100)) false :: List.replicate 5 (.perform 1 (.ok ())) ++
    .route ⟨0x40, [0, 0x51, 0], by decide⟩ :: List.replicate 2 (.perform 1 (.ok ()))

theorem run_command_heard_of_rejected :
    ∃ machine : Machine Unit Unit, (start {}).run rejectedFirst = some machine ∧
      (∃ message, Heard {} rejectedFirst 0 message ∧ message.byteAt 2 = 0x15) ∧
      ∃ message, Heard {} rejectedFirst 1 message ∧ message.byteAt 2 = 0 := by
  have hstate : ((start {} : Machine Unit Unit).run rejectedFirst).map (fun machine =>
      (machine.result? 0, machine.result? 1)) =
        some (some (.error (.rejected 0x51 0x15)), some (.ok .done)) := by
    decide +kernel
  obtain ⟨machine, hrun, hmachine⟩ := Option.map_eq_some_iff.mp hstate
  obtain ⟨hrejected, hdone⟩ := Prod.mk.inj hmachine
  have hfew : (start {} : Machine Unit Unit).registrations rejectedFirst < UInt64.size := by
    decide +kernel
  have hfirst := run_command_heard {} rejectedFirst machine hrun hfew 0 (.channelId 0 ⟨49, 1, 1⟩)
    100 rfl
  have hsecond := run_command_heard {} rejectedFirst machine hrun hfew 1 (.channelId 0 ⟨49, 1, 1⟩)
    100 rfl
  obtain ⟨rejection, hrejection, _, hcode, _⟩ := hfirst.2 0x51 0x15 hrejected
  obtain ⟨acceptance, hacceptance, haccepted, _⟩ := hsecond.1 .done hdone
  exact ⟨machine, hrun, ⟨rejection, hrejection, hcode⟩, acceptance, hacceptance, haccepted⟩

/-- An answer to a request for the identity of channel zero. -/
def channelIdAnswer : Message := ⟨0x51, [0, 49, 0, 1, 1], by decide⟩

/-- The answer to an earlier request arrives while a command with the answer's identifier waits,
and the command's rejection after it. -/
def lateAnswer : List (Event Unit Unit) :=
  .begin (.command (.channelId 0 ⟨49, 1, 1⟩) (some 100)) false ::
    List.replicate 3 (.perform 0 (.ok ())) ++ .route channelIdAnswer ::
    .route ⟨0x40, [0, 0x51, 0x15], by decide⟩ :: List.replicate 4 (.perform 0 (.ok ()))

/-- The command counts as accepted, though its only response rejects it. -/
theorem command_accepted_by_answer :
    ∃ machine : Machine Unit Unit, (start {}).run lateAnswer = some machine ∧
      machine.result? 0 = some (.ok .done) ∧
      ∀ message, Heard {} lateAnswer 0 message →
        message.RespondsTo (.channelId 0 ⟨49, 1, 1⟩) → message.byteAt 2 = 0x15 := by
  have hstate : ((start {} : Machine Unit Unit).run lateAnswer).map (fun machine =>
      machine.result? 0) = some (some (.ok .done)) := by
    decide +kernel
  obtain ⟨machine, hrun, hresult⟩ := Option.map_eq_some_iff.mp hstate
  refine ⟨machine, hrun, hresult, fun message hheard hresponds => ?_⟩
  have hmem := hheard.mem
  simp only [lateAnswer, List.replicate, List.cons_append, List.nil_append, List.mem_cons,
    reduceCtorEq, false_or, List.not_mem_nil, or_false, Event.route.injEq] at hmem
  rcases hmem with rfl | rfl
  · cases hresponds.id
  · rfl

/-- A request returns a message that was routed while it waited: its answer, a message under the
identifier of requests themselves, or after an acceptance a response to some other command. -/
theorem run_request_heard (config : Config) (events : List (Event H β)) (machine : Machine H β)
    (hrun : (start config).run events = some machine)
    (hfew : (start config : Machine H β).registrations events < UInt64.size)
    (thread : Nat) (channel messageId : UInt8) (hid : messageId ≠ 0x40) (timeout : Nat)
    (hcall : (calls events)[thread]? = some (.request channel messageId (some timeout)))
    (reply : Reply) (hresult : machine.result? thread = some (.ok reply)) :
    ∃ message, reply = .message message ∧ Heard config events thread message ∧
      (message.Answers channel messageId ∨
        message.id = 0x4D ∧ message.byteAt 0 &&& 0x1F = channel ∨
        message.id = 0x40 ∧ message.byteAt 1 = messageId ∧
          (messageId = 0x51 ∨ messageId = 0x52 → message.byteAt 0 &&& 0x1F = channel) ∧
          ∃ acceptance, Heard config events thread acceptance ∧ acceptance.id = 0x40 ∧
            acceptance.byteAt 2 = 0) := by
  obtain ⟨stages, hconducted, hattended⟩ := exists_attended hrun hfew
  have hattends := hattended thread _ hcall
  have hverdict := (hconducted.ends hcall hresult).verdict_of_ok (List.cons_ne_nil _ _)
  rcases Call.verdict_request_cases hverdict with
    ⟨message, htaken, hanswer, heq⟩ | ⟨_, _, _, _, heq⟩ | ⟨acceptance, message, htaken, heq⟩
  · cases heq
    obtain ⟨expectation, hmem, hmet, hheard⟩ := hattends.taken 0 message (by rw [htaken]; rfl)
    have hraw : message.id ≠ 0x40 := by
      rw [Action.isAnswer, Bool.or_eq_true, bne_iff_ne, beq_iff_eq] at hanswer
      exact hanswer.resolve_right hid
    refine ⟨message, rfl, hheard, ?_⟩
    rcases List.mem_cons.mp hmem with rfl | hrefusal
    · rcases (Message.answers_or_response hmet).2 with hanswers | ⟨hresponse, _⟩
      · exact .inl hanswers
      · exact absurd hresponse hraw
    · -- Refusals are registered for under an identifier that is also a message's own.
      cases List.mem_singleton.mp hrefusal
      have hchannel : message.byteAt 0 &&& 0x1F = channel := hmet.channel_eq rfl
      obtain ⟨_, hoffered, _⟩ := hmet
      obtain ⟨_, _, ⟨hresponse, _, _⟩ | ⟨hrequest, _, _⟩⟩ :=
        Message.offered?_eq_some_iff.mp hoffered
      · exact absurd hresponse hraw
      · exact .inr (.inl ⟨hrequest, hchannel⟩)
  · cases heq
  · cases heq
    obtain ⟨expectation, hmem, hmet, hheard⟩ := hattends.taken 1 message (by rw [htaken]; rfl)
    obtain ⟨_, _, _, haccepted⟩ := hattends.taken 0 acceptance (by rw [htaken]; rfl)
    have hundecided := hattends.undecided 1 (by rw [htaken]; exact Nat.lt_succ_self 1)
    rw [htaken] at hundecided
    cases List.mem_singleton.mp hmem
    obtain ⟨hchannel, hanswers | ⟨hresponse, hanswered⟩⟩ := Message.answers_or_response hmet
    · exact ⟨message, rfl, hheard, .inl hanswers⟩
    · exact ⟨message, rfl, hheard, .inr (.inr ⟨hresponse, hanswered, hchannel, acceptance,
        haccepted, Call.accepted_of_verdict_request hundecided⟩)⟩

/-- A request that is accepted and then answered. -/
def acceptedFirst : List (Event Unit Unit) :=
  .begin (.request 0 0x51 (some 5000)) false :: List.replicate 7 (.perform 0 (.ok ())) ++
    .route ⟨0x40, [0, 0x4D, 0], by decide⟩ :: List.replicate 4 (.perform 0 (.ok ())) ++
    .route channelIdAnswer :: List.replicate 2 (.perform 0 (.ok ()))

theorem run_request_heard_of_accepted :
    ∃ machine : Machine Unit Unit, (start {}).run acceptedFirst = some machine ∧
      (0x51 : UInt8) ≠ 0x40 ∧ ∃ message, Heard {} acceptedFirst 0 message ∧
        machine.result? 0 = some (.ok (.message message)) ∧ message.Answers 0 0x51 := by
  have hstate : ((start {} : Machine Unit Unit).run acceptedFirst).map (fun machine =>
      machine.result? 0) = some (some (.ok (.message channelIdAnswer))) := by
    decide +kernel
  obtain ⟨machine, hrun, hresult⟩ := Option.map_eq_some_iff.mp hstate
  obtain ⟨message, hreply, hheard, hcases⟩ := run_request_heard {} acceptedFirst machine hrun
    (by decide +kernel) 0 0 0x51 (by decide) 5000 rfl _ hresult
  cases hreply
  refine ⟨machine, hrun, by decide, channelIdAnswer, hheard, hresult, ?_⟩
  rcases hcases with hanswers | ⟨hid, _⟩ | ⟨hid, _⟩
  · exact hanswers
  · cases hid
  · cases hid

/-- While an accepted request waits for its answer, another call sends a command with the answer's
identifier, and the device accepts that command. -/
def commandBetween : List (Event Unit Unit) :=
  .begin (.request 0 0x51 (some 5000)) false :: List.replicate 7 (.perform 0 (.ok ())) ++
    .route ⟨0x40, [0, 0x4D, 0], by decide⟩ :: List.replicate 4 (.perform 0 (.ok ())) ++
    .begin (.command (.channelId 0 ⟨49, 1, 1⟩) none) false ::
    List.replicate 2 (.perform 1 (.ok ())) ++
    .route ⟨0x40, [0, 0x51, 0], by decide⟩ :: List.replicate 2 (.perform 0 (.ok ()))

/-- The request returns the response to the command. -/
theorem request_answered_by_response :
    ∃ machine : Machine Unit Unit, (start {}).run commandBetween = some machine ∧
      ∃ message, machine.result? 0 = some (.ok (.message message)) ∧
        ¬ message.Answers 0 0x51 := by
  let response : Message := ⟨0x40, [0, 0x51, 0], by decide⟩
  have hstate : ((start {} : Machine Unit Unit).run commandBetween).map (fun machine =>
      machine.result? 0) = some (some (.ok (.message response))) := by
    decide +kernel
  obtain ⟨machine, hrun, hresult⟩ := Option.map_eq_some_iff.mp hstate
  refine ⟨machine, hrun, response, hresult, fun hanswers => ?_⟩
  cases hanswers.id

end Machine

end AntHost
