import AntHost.Proofs.Session.Answers
import AntHost.Proofs.Session.Exchange
/-!
# Requests that are answered

A request waits twice, first for its answer or its refusal and then for the answer alone, and gives
up the second registration in between. Wherever the device's messages fall, the answer is returned
if it comes, and the refusal if only that does.
-/

namespace AntHost

variable {H β : Type}

/-! ## Messages about a request -/

namespace Message

/-- The response with a code to the command sent under an identifier. -/
structure IsResponse (message : Message) (channel messageId code : UInt8) : Prop where
  id : message.id = 0x40
  payload : [channel, messageId, code] <+: message.payload

/-- A message has an identifier, or is a response to the command sent under it. -/
def Concerns (message : Message) (messageId : UInt8) : Prop :=
  message.id = messageId ∨ message.id = 0x40 ∧ message.byteAt 1 = messageId ∧ messageId ≠ 1

/-- A message has nothing to do with requests for an identifier. -/
def Unrelated (message : Message) (messageId : UInt8) : Prop :=
  ¬ message.Concerns messageId ∧ ¬ message.Concerns 0x4D

instance (message : Message) (messageId : UInt8) : Decidable (message.Concerns messageId) :=
  inferInstanceAs (Decidable (_ ∨ _))

instance (message : Message) (messageId : UInt8) : Decidable (message.Unrelated messageId) :=
  inferInstanceAs (Decidable (_ ∧ _))

variable {message : Message} {channel messageId code : UInt8}

namespace IsResponse

theorem bytes (hresponse : message.IsResponse channel messageId code) :
    message.payload ≠ [] ∧ message.byteAt 0 = channel ∧ message.byteAt 1 = messageId ∧
      message.byteAt 2 = code := by
  obtain ⟨rest, hpayload⟩ := hresponse.payload
  simp [byteAt, ← hpayload]

theorem metBy (hresponse : message.IsResponse channel messageId code) (hchannel : channel < 32)
    (hid : messageId ≠ 1) : Expectation.MetBy ⟨messageId, some channel⟩ message := by
  obtain ⟨hpayload, hfirst, hsecond, _⟩ := hresponse.bytes
  refine ⟨channel, offered?_eq_some_iff.mpr ⟨hpayload, ?_, .inl ⟨hresponse.id, hsecond, hid⟩⟩,
    .inr rfl⟩
  rw [hfirst]
  exact and_channelMask_eq_self_iff.mpr hchannel

/-- A response to one command does not concern another. -/
theorem not_concerns (hresponse : message.IsResponse channel messageId code) {other : UInt8}
    (hraw : other ≠ 0x40) (hother : other ≠ messageId) : ¬ message.Concerns other := by
  obtain ⟨_, _, hsecond, _⟩ := hresponse.bytes
  rintro (hid | ⟨_, hanswered, _⟩)
  · exact hraw (hid.symm.trans hresponse.id)
  · exact hother (hanswered.symm.trans hsecond)

end IsResponse

theorem isAnswer_iff (hraw : messageId ≠ 0x40) :
    Action.isAnswer messageId message = true ↔ message.id ≠ 0x40 := by
  rw [Action.isAnswer, Bool.or_eq_true, bne_iff_ne, beq_iff_eq]
  exact or_iff_left hraw

/-- An answer is offered to the request that it answers. -/
theorem Answers.metBy (hanswers : message.Answers channel messageId)
    (hroute : message.route? = some (.other message.channel messageId)) :
    Expectation.MetBy ⟨messageId, Action.requestScope channel messageId⟩ message := by
  refine ⟨message.channel, by rw [offered?, hroute], ?_⟩
  rw [Action.requestScope_eq]
  split
  next hscoped => exact .inr (congrArg some (hanswers.channel hscoped).symm)
  next => exact .inl rfl

end Message

/-- Only what concerns an identifier is taken for it. -/
theorem Expectation.MetBy.concerns {expectation : Expectation} {message : Message}
    (hmet : expectation.MetBy message) : message.Concerns expectation.messageId := by
  obtain ⟨_, hoffered, _⟩ := hmet
  obtain ⟨_, _, ⟨hid, hanswered, hne⟩ | ⟨hid, _, _⟩⟩ := Message.offered?_eq_some_iff.mp hoffered
  · exact .inr ⟨hid, hanswered, hne⟩
  · exact .inl hid

/-! ## What decides a request -/

section Request

variable {channel messageId code : UInt8} {timeout : Nat} {routed : Message → Prop}
  {taken : List Message} {message answer : Message} {result : Except CallError Reply}
  {tracker : Tracker} {stage : AskStage}

theorem Message.Unrelated.not_metBy (hunrelated : message.Unrelated messageId)
    {expectation : Expectation}
    (hmem : expectation ∈ (Call.request channel messageId (some timeout)).expects) :
    ¬ expectation.MetBy message := by
  intro hmet
  rcases List.mem_cons.mp hmem with rfl | hrefusal
  · exact hunrelated.1 hmet.concerns
  · cases List.mem_singleton.mp hrefusal
    exact hunrelated.2 hmet.concerns

namespace Heeds

theorem not_unrelated (hheeds : Heeds (.request channel messageId (some timeout)) routed taken)
    (index : Nat) (htaken : taken[index]? = some message) :
    routed message ∧ ¬ message.Unrelated messageId := by
  obtain ⟨hrouted, expectation, hmem, hmet⟩ := hheeds index message htaken
  exact ⟨hrouted, fun hunrelated => hunrelated.not_metBy (List.mem_of_mem_take hmem) hmet⟩

/-- The second wait is for the answer alone. -/
theorem concerns_of_second (hheeds : Heeds (.request channel messageId (some timeout)) routed taken)
    (htaken : taken[1]? = some message) : routed message ∧ message.Concerns messageId := by
  obtain ⟨hrouted, expectation, hmem, hmet⟩ := hheeds 1 message htaken
  cases List.mem_singleton.mp hmem
  exact ⟨hrouted, hmet.concerns⟩

/-- A request that was sent its answer, and refused by nobody, returns the answer. -/
theorem verdict_of_answer (hheeds : Heeds (.request channel messageId (some timeout)) routed taken)
    (hraw : messageId ≠ 0x40) (hid : messageId ≠ 0x4D) (hanswer : answer.id = messageId)
    (hrouted : ∀ message, routed message →
      message.Unrelated messageId ∨ message.IsResponse channel 0x4D 0 ∨ message = answer)
    (hverdict : (Call.request channel messageId (some timeout)).verdict? taken = some result) :
    result = .ok (.message answer) := by
  rcases Call.verdict_request_cases hverdict with
    ⟨message, rfl, hfound, rfl⟩ | ⟨refusal, rfl, hfound, hcode, rfl⟩ | ⟨_, message, rfl, rfl⟩
  · obtain ⟨hmessage, hrelated⟩ := hheeds.not_unrelated 0 rfl
    rcases hrouted message hmessage with hunrelated | hresponse | rfl
    · exact absurd hunrelated hrelated
    · exact absurd hresponse.id ((Message.isAnswer_iff hraw).mp hfound)
    · rfl
  · obtain ⟨hmessage, hrelated⟩ := hheeds.not_unrelated 0 rfl
    rcases hrouted refusal hmessage with hunrelated | hresponse | rfl
    · exact absurd hunrelated hrelated
    · exact absurd hresponse.bytes.2.2.2 hcode
    · exact absurd ((Message.isAnswer_iff hraw).mpr (hanswer ▸ hraw)) hfound
  · obtain ⟨hmessage, hconcerns⟩ := hheeds.concerns_of_second rfl
    rcases hrouted message hmessage with hunrelated | hresponse | rfl
    · exact absurd hconcerns hunrelated.1
    · exact absurd hconcerns (hresponse.not_concerns hraw hid)
    · rfl

/-- A request that was only refused fails with the refusal. -/
theorem verdict_of_refusal (hheeds : Heeds (.request channel messageId (some timeout)) routed taken)
    (hraw : messageId ≠ 0x40) (hid : messageId ≠ 0x4D)
    (hrouted : ∀ message, routed message →
      message.Unrelated messageId ∨ message.IsResponse channel 0x4D code)
    (hverdict : (Call.request channel messageId (some timeout)).verdict? taken = some result) :
    result = .error (.rejected 0x4D code) := by
  rcases Call.verdict_request_cases hverdict with
    ⟨message, rfl, hfound, rfl⟩ | ⟨refusal, rfl, hfound, hcode, rfl⟩ | ⟨_, message, rfl, rfl⟩
  · obtain ⟨hmessage, hrelated⟩ := hheeds.not_unrelated 0 rfl
    have hresponse := (hrouted message hmessage).resolve_left hrelated
    exact absurd hresponse.id ((Message.isAnswer_iff hraw).mp hfound)
  · obtain ⟨hmessage, hrelated⟩ := hheeds.not_unrelated 0 rfl
    obtain ⟨_, _, hsecond, hthird⟩ := ((hrouted refusal hmessage).resolve_left hrelated).bytes
    rw [hsecond, hthird]
  · obtain ⟨hmessage, hconcerns⟩ := hheeds.concerns_of_second rfl
    rcases hrouted message hmessage with hunrelated | hresponse
    · exact absurd hconcerns hunrelated.1
    · exact absurd hconcerns (hresponse.not_concerns hraw hid)

end Heeds

namespace Pending

/-- What a request took while it goes on waiting is at most an acceptance. -/
theorem accepted_of_mem (hpending : Pending (.request channel messageId (some timeout)) routed
    tracker stage) (hmessage : message ∈ stage.taken) :
    stage.taken = [message] ∧ message.id = 0x40 ∧ message.byteAt 2 = 0 := by
  obtain ⟨_, hheld, hlength, hundecided, _, _⟩ := hpending
  have hpos := List.length_pos_iff.mpr hheld
  have hone : stage.taken.length ≤ 1 := by
    change _ = 2 at hlength
    omega
  obtain ⟨index, hindex, rfl⟩ := List.mem_iff_getElem.mp hmessage
  have htaken : stage.taken = [stage.taken[index]] := by
    obtain ⟨only, honly⟩ := List.length_eq_one_iff.mp (by omega : stage.taken.length = 1)
    simp [honly]
  rw [htaken] at hundecided
  exact ⟨htaken, Call.accepted_of_verdict_request hundecided⟩

/-- As soon as its answer was sent, a request need not wait. -/
theorem ready_of_answer (hpending : Pending (.request channel messageId (some timeout)) routed
      tracker stage) (hraw : messageId ≠ 0x40) (hid : messageId ≠ 0x4D)
    (hanswer : answer.id = messageId)
    (hmet : Expectation.MetBy ⟨messageId, Action.requestScope channel messageId⟩ answer)
    (hrouted : ∀ message, routed message →
      message.Unrelated messageId ∨ message.IsResponse channel 0x4D 0 ∨ message = answer)
    (hsent : routed answer) : ∃ entry ∈ stage.held, tracker.Ready entry.1.messageId := by
  obtain ⟨entry, rest, hheld⟩ := List.exists_cons_of_ne_nil hpending.held
  have hentry : entry ∈ stage.held := hheld ▸ List.mem_cons_self
  have hexpects := hpending.expects
  rw [hheld, List.map_cons] at hexpects
  have hown := (List.cons_prefix_cons.mp hexpects).1
  refine ⟨entry, hentry, ?_⟩
  -- All that can have been taken is an acceptance, and that is not for the answer's registration.
  refine (hpending.saved entry hentry answer hsent (hown ▸ hmet)).resolve_left ?_
  rintro ⟨message, htaken, hmeets⟩
  rw [hown] at hmeets
  obtain ⟨honly, hresponse, _⟩ := hpending.accepted_of_mem htaken
  obtain ⟨hmessage, hrelated⟩ := hpending.heeds.not_unrelated 0 (by rw [honly]; rfl)
  rcases hrouted message hmessage with hunrelated | hother | rfl
  · exact hrelated hunrelated
  · exact hother.not_concerns hraw hid hmeets.concerns
  · exact hraw (hanswer.symm.trans hresponse)

/-- As soon as it was refused, a request need not wait. -/
theorem ready_of_refusal (hpending : Pending (.request channel messageId (some timeout)) routed
      tracker stage) (hchannel : channel < 32) (hcode : code ≠ 0)
    (hrouted : ∀ message, routed message →
      message.Unrelated messageId ∨ message.IsResponse channel 0x4D code)
    (hsent : routed message) (hrefusal : message.IsResponse channel 0x4D code) :
    ∃ entry ∈ stage.held, tracker.Ready entry.1.messageId := by
  -- What leaves the request undecided would be an acceptance, and the device sent none.
  have hnone : stage.taken = [] := by
    rw [List.eq_nil_iff_forall_not_mem]
    intro other hother
    obtain ⟨honly, _, haccepted⟩ := hpending.accepted_of_mem hother
    obtain ⟨hmessage, hrelated⟩ := hpending.heeds.not_unrelated 0 (by rw [honly]; rfl)
    obtain ⟨_, _, _, hrefused⟩ := ((hrouted other hmessage).resolve_left hrelated).bytes
    exact hcode (hrefused.symm.trans haccepted)
  have hlength := hpending.length
  rw [hnone, List.length_nil, Nat.add_zero] at hlength
  have hall := hpending.expects.eq_of_length ((List.length_map _).trans hlength)
  obtain ⟨entry, hentry, hown⟩ : ∃ entry ∈ stage.held, entry.2 = ⟨0x4D, some channel⟩ :=
    List.mem_map.mp (hall ▸ List.mem_cons_of_mem _ (List.mem_singleton_self _))
  refine ⟨entry, hentry, ?_⟩
  have hmet : entry.2.MetBy message := hown ▸ hrefusal.metBy hchannel (by decide)
  refine (hpending.saved entry hentry message hsent hmet).resolve_left ?_
  rintro ⟨other, htaken, _⟩
  rw [hnone] at htaken
  cases htaken

end Pending

end Request

/-! ## Requests in every interleaving -/

namespace Machine

variable [DecidableEq β]

/-- A request that waits alone returns its answer if the device sends it after the request, in
whichever order with acceptances and other traffic and wherever between the operations of the call,
and the device's refusal if that is all it sends. -/
theorem run_request_answered (config : Config) (before early late : List (Event H β))
    (asked machine : Machine H β) (channel messageId : UInt8) (timeout : Nat) (onRouter : Bool)
    (hchannel : channel < 32) (hid : messageId ≠ 0x4D)
    (hother : ∀ message : Message, message.id = messageId → message.payload ≠ [] →
      message.route? = some (.other message.channel messageId))
    (hexchange : Exchange config before (.request channel messageId (some timeout)) onRouter early
      asked late machine)
    (hearly : ∀ message, .route message ∈ early → message.Unrelated messageId) :
    (∀ answer : Message, answer.Answers channel messageId → answer.payload ≠ [] →
      (∀ message, .route message ∈ late → message.Unrelated messageId ∨
        message.IsResponse channel 0x4D 0 ∨ message = answer) →
      (∀ result, machine.result? (calls before).length = some result →
        result = .ok (.message answer)) ∧
      (.route answer ∈ late →
        machine.Settles (calls before).length (.ok (.message answer)))) ∧
    ∀ code : UInt8, code ≠ 0 →
      (∀ message, .route message ∈ late → message.Unrelated messageId ∨
        message.IsResponse channel 0x4D code) →
      (∀ result, machine.result? (calls before).length = some result →
        result = .error (.rejected 0x4D code)) ∧
      ∀ refusal : Message, .route refusal ∈ late → refusal.IsResponse channel 0x4D code →
        machine.Settles (calls before).length (.error (.rejected 0x4D code)) := by
  have hraw : messageId ≠ 0x40 := by
    rintro rfl
    cases hother ⟨0x40, [0], by decide⟩ rfl (List.cons_ne_nil _ _)
  have hdistinct : ((Call.request channel messageId (some timeout)).expects.map
      Expectation.messageId).Nodup :=
    List.nodup_cons.mpr ⟨fun hmem => hid (List.mem_singleton.mp hmem), List.nodup_singleton _⟩
  have hunmet : ∀ message, .route message ∈ early →
      ∀ expectation ∈ (Call.request channel messageId (some timeout)).expects,
        ¬ expectation.MetBy message :=
    fun message hmessage expectation hmem => (hearly message hmessage).not_metBy hmem
  constructor
  · intro answer hanswers hpayload hlate
    have hmet := hanswers.metBy (hother answer hanswers.id hpayload)
    obtain ⟨hreturns, hsettles⟩ := hexchange.settles (List.cons_ne_nil _ _) hdistinct hunmet
      fun taken other hheeds => hheeds.verdict_of_answer hraw hid hanswers.id hlate
    exact ⟨hreturns, fun hsent => hsettles fun tracker stage hpending =>
      hpending.ready_of_answer hraw hid hanswers.id hmet hlate hsent⟩
  · intro code hcode hlate
    obtain ⟨hreturns, hsettles⟩ := hexchange.settles (List.cons_ne_nil _ _) hdistinct hunmet
      fun taken other hheeds => hheeds.verdict_of_refusal hraw hid hlate
    exact ⟨hreturns, fun refusal hsent hrefusal => hsettles fun tracker stage hpending =>
      hpending.ready_of_refusal hchannel hcode hlate hsent hrefusal⟩

/-- The device's response to a request on channel zero. -/
def requestResponse (code : UInt8) : Message := ⟨0x40, [0, 0x4D, code], by simp [bufferSize]⟩

/-- The events of a request up to its write. -/
def askedFirst : List (Event Unit Unit) := List.replicate 3 (.perform 0 (.ok ()))

/-- A request whose command is written, and then these messages. -/
def askedThenRouted (messages : List Message) : List (Event Unit Unit) :=
  .begin (.request 0 0x51 (some 5000)) false ::
    (askedFirst ++ .perform 0 (.ok ()) :: messages.map .route)

theorem exchange_of_routed (messages : List Message)
    (hlasts : ((start {} : Machine Unit Unit).run (askedThenRouted messages)).map (fun machine =>
      (machine.session.tracker.closed, machine.now)) = some (false, 0)) :
    ∃ asked machine, Exchange {} [] (.request 0 0x51 (some 5000)) false askedFirst asked
      (messages.map .route) machine := by
  obtain ⟨machine, hrun, hmachine⟩ := Option.map_eq_some_iff.mp hlasts
  obtain ⟨hopen, hclock⟩ := Prod.mk.inj hmachine
  have hstate : ((start {} : Machine Unit Unit).run
      (.begin (.request 0 0x51 (some 5000)) false :: askedFirst)).map (fun machine =>
        (machine.nextOp? 0, machine.session.cancelRaised, machine.now)) =
      some (some (.write [0xA4, 2, 0x4D, 0, 0x51, 0xBA]), false, 0) := by
    decide +kernel
  obtain ⟨asked, hasked, hbegun⟩ := Option.map_eq_some_iff.mp hstate
  obtain ⟨hwrites, hcancel, hnow⟩ : _ ∧ _ ∧ _ := by
    rwa [Prod.mk.injEq, Prod.mk.injEq] at hbegun
  refine ⟨asked, machine, ⟨hrun, fun _ _ _ _ hcaller => ?_, fun caller hcaller => ?_⟩, hasked,
    ⟨_, hwrites⟩, ⟨hcancel, by simp⟩, hopen, .inr ?_⟩
  · rw [calls, List.filterMap_nil, List.getElem?_nil] at hcaller
    cases hcaller
  · simp [calls, askedFirst, Event.call?] at hcaller
  · rw [hclock, hnow]
    decide

/-- The answer comes before the acceptance and both before the first wait, or a refusal comes. -/
theorem run_request_answered_of_early :
    (∃ machine, (start {}).run (askedThenRouted [⟨0x40, [0, 1, 6], by decide⟩, channelIdAnswer,
        requestResponse 0]) = some machine ∧
      machine.Settles 0 (.ok (.message channelIdAnswer))) ∧
    ∃ machine, (start {}).run (askedThenRouted [requestResponse 0x28]) = some machine ∧
      machine.Settles 0 (.error (.rejected 0x4D 0x28)) := by
  have hother : ∀ message : Message, message.id = 0x51 → message.payload ≠ [] →
      message.route? = some (.other message.channel 0x51) := by
    intro message hid hpayload
    rw [Message.route?_of_other hpayload (by rw [hid]; decide)
      (by simp [Message.dataDelivery?, hid]), hid]
  have hearly : ∀ message : Message, .route message ∈ askedFirst → message.Unrelated 0x51 :=
    fun message hmem => absurd (List.eq_of_mem_replicate hmem) (by simp)
  constructor
  · obtain ⟨asked, machine, hexchange⟩ := exchange_of_routed
      [⟨0x40, [0, 1, 6], by decide⟩, channelIdAnswer, requestResponse 0] (by decide +kernel)
    have hrequest := run_request_answered {} [] askedFirst _ asked machine 0 0x51 5000 false
      (by decide) (by decide) hother hexchange hearly
    refine ⟨machine, hexchange.only.reached, (hrequest.1 channelIdAnswer
      ⟨rfl, fun _ => by decide⟩ (List.cons_ne_nil _ _) fun message hmem => ?_).2 (by simp)⟩
    simp only [List.map_cons, List.map_nil, List.mem_cons, Event.route.injEq, List.not_mem_nil,
      or_false] at hmem
    rcases hmem with rfl | rfl | rfl
    · exact .inl (by decide)
    · exact .inr (.inr rfl)
    · exact .inr (.inl ⟨rfl, List.prefix_rfl⟩)
  · obtain ⟨asked, machine, hexchange⟩ :=
      exchange_of_routed [requestResponse 0x28] (by decide +kernel)
    have hrequest := run_request_answered {} [] askedFirst _ asked machine 0 0x51 5000 false
      (by decide) (by decide) hother hexchange hearly
    refine ⟨machine, hexchange.only.reached, (hrequest.2 0x28 (by decide)
      fun message hmem => ?_).2 (requestResponse 0x28) (by simp) ⟨rfl, List.prefix_rfl⟩⟩
    simp only [List.map_cons, List.map_nil, List.mem_singleton, Event.route.injEq] at hmem
    subst hmem
    exact .inr ⟨rfl, List.prefix_rfl⟩

end Machine

end AntHost
