import AntHost.Proofs.Replay
import AntHost.Transfer
/-!
# Transfers at a monitor

Callers take turns at one monitor while channel events come in. An event is one locked operation of
one caller or of the router, so a run is any interleaving of them. What a holder finds is settled by
what has happened since its own transfer began, and by nothing before.
-/

namespace AntHost

/-- What a code on the wire says about a transfer of this kind. -/
def TransferKind.verdict (kind : TransferKind) (code : UInt8) : Option TransferOutcome :=
  if kind = .broadcast then
    if code = EventCode.tx.value then some .completed else none
  else if code = EventCode.transferTxCompleted.value then some .completed
  else if code = EventCode.transferTxFailed.value then some .failed
  else none

theorem TransferKind.decides_eq_verdict (kind : TransferKind) (code : UInt8) :
    kind.decides code = kind.verdict code := by
  cases hcode : EventCode.ofByte? code with
  | none =>
      have hunknown : ∀ event : EventCode, code ≠ event.value := by
        rintro event rfl
        rw [EventCode.ofByte?_value] at hcode
        cases hcode
      cases kind <;> simp [decides, verdict, hcode, hunknown]
  | some event =>
      obtain rfl := EventCode.value_of_ofByte? hcode
      unfold decides
      rw [hcode]
      cases kind <;> cases event <;> rfl

namespace TransferMonitor

variable {monitor : TransferMonitor} {policy : WaitPolicy} {raised : Bool} {deadline : Option Nat}
  {now : Nat}

/-- A look for the monitor takes it if it is free, and else changes nothing. -/
theorem check_tryBegin {channel : UInt8} {kind : TransferKind} {packets : Nat}
    {result : Except WaitError Unit}
    (hcheck : policy.check raised deadline now (monitor.tryBegin channel kind packets).1 =
      some result) :
    (result = .ok () ∧ monitor.closed = false ∧ monitor.busy = false ∧
        (monitor.tryBegin channel kind packets).2 =
          { monitor with
            busy := true, channel, kind := some kind, outstanding := packets, outcome := none }) ∨
      ∃ error, result = .error error ∧ (monitor.closed = true ∨ monitor.busy = true) ∧
        (monitor.tryBegin channel kind packets).2 = monitor := by
  by_cases hclosed : monitor.closed = true
  · rw [tryBegin, if_pos hclosed] at hcheck ⊢
    cases hcheck
    exact .inr ⟨_, rfl, .inl hclosed, rfl⟩
  · by_cases hbusy : monitor.busy = true
    · rw [tryBegin, if_neg hclosed, if_pos hbusy] at hcheck ⊢
      obtain ⟨error, _, rfl⟩ := Option.map_eq_some_iff.mp hcheck
      exact .inr ⟨error, rfl, .inr hbusy, rfl⟩
    · rw [tryBegin, if_neg hclosed, if_neg hbusy] at hcheck ⊢
      cases hcheck
      exact .inl ⟨rfl, Bool.not_eq_true _ ▸ hclosed, Bool.not_eq_true _ ▸ hbusy, rfl⟩

/-- A look for the outcome finds one exactly when it is decided. -/
theorem check_look {outcome : TransferOutcome} :
    policy.check raised deadline now monitor.look = some (.ok outcome) ↔
      monitor.outcome = some outcome := by
  rw [look]
  cases monitor.outcome with
  | some decided => simp [WaitPolicy.check]
  | none => cases monitor.closed <;> simp [WaitPolicy.check]

variable {channel code : UInt8} {kind : TransferKind} {outcome : TransferOutcome}

/-- A channel event changes at most what is outstanding and the outcome. -/
theorem onEvent_frame (monitor : TransferMonitor) (channel code : UInt8) :
    monitor.onEvent channel code =
      { monitor with
        outstanding := (monitor.onEvent channel code).outstanding
        outcome := (monitor.onEvent channel code).outcome } := by
  unfold onEvent
  repeat' split <;> try rfl

theorem onEvent_of_idle (hidle : monitor.kind = none) : monitor.onEvent channel code = monitor := by
  rw [onEvent, hidle]

theorem onEvent_of_decided (hdecided : monitor.outcome = some outcome) :
    monitor.onEvent channel code = monitor := by
  unfold onEvent
  split
  next => rfl
  next =>
    rw [if_neg]
    rintro ⟨_, hundecided⟩
    rw [hdecided] at hundecided
    cases hundecided

/-- The first event that decides a transfer is its outcome. -/
theorem onEvent_of_verdict (hkind : monitor.kind = some kind) (hchannel : monitor.channel = channel)
    (hundecided : monitor.outcome = none) (hverdict : kind.verdict code = some outcome) :
    monitor.onEvent channel code = { monitor with outstanding := 0, outcome := some outcome } := by
  rw [onEvent, hkind]
  dsimp only
  rw [if_pos ⟨hchannel, hundecided⟩, TransferKind.decides_eq_verdict, hverdict]

/-- An outcome is as it was, or what the event decides for the transfer on its channel. -/
theorem outcome_of_onEvent (houtcome : (monitor.onEvent channel code).outcome = some outcome) :
    monitor.outcome = some outcome ∨
      ∃ kind, monitor.kind = some kind ∧ monitor.channel = channel ∧
        kind.verdict code = some outcome := by
  unfold onEvent at houtcome
  split at houtcome
  next => exact .inl houtcome
  next kind hkind =>
    split at houtcome
    next hboth =>
      rw [TransferKind.decides_eq_verdict] at houtcome
      split at houtcome
      next decided hverdict =>
        cases houtcome
        exact .inr ⟨kind, hkind, hboth.1, hverdict⟩
      next => exact .inl houtcome
    next => exact .inl houtcome

end TransferMonitor

/-- A transfer that a caller begins. -/
structure Transfer where
  caller : Nat
  channel : UInt8
  kind : TransferKind
  packets : Nat
deriving DecidableEq, Repr

namespace TransferMonitor

/-- One thing that happens at a monitor. An attempt to begin, or a wait, that goes on while other
things happen is its last look, since the looks before it find nothing. -/
inductive Event where
  | begin (transfer : Transfer) (policy : WaitPolicy) (raised : Bool) (deadline : Option Nat)
      (now : Nat)
  | channelEvent (channel code : UInt8)
  | packetSent (caller : Nat)
  | wait (caller : Nat) (policy : WaitPolicy) (raised : Bool) (deadline : Option Nat) (now : Nat)
  | release (caller : Nat)
  | close
deriving DecidableEq, Repr

/-- What a caller is told. -/
inductive Answer where
  | began (result : Except WaitError Unit)
  | ended (result : Except WaitError TransferOutcome)
  | quiet

end TransferMonitor

open TransferMonitor (Event Answer)

/-- A monitor and the callers that hold a transfer. -/
structure TransferDesk where
  monitor : TransferMonitor := {}
  live : List Nat := []

namespace TransferDesk

/-- What an event answers and leaves; nothing if its caller holds no transfer or waits on. -/
def step (desk : TransferDesk) : Event → Option (Answer × TransferDesk)
  | .begin transfer policy raised deadline now =>
      let (found, monitor) :=
        desk.monitor.tryBegin transfer.channel transfer.kind transfer.packets
      (policy.check raised deadline now found).map fun result =>
        (.began result,
          ⟨monitor, if result.isOk then desk.live ++ [transfer.caller] else desk.live⟩)
  | .channelEvent channel code =>
      some (.quiet, { desk with monitor := desk.monitor.onEvent channel code })
  | .packetSent caller =>
      if caller ∈ desk.live then some (.quiet, { desk with monitor := desk.monitor.packetSent })
      else none
  | .wait caller policy raised deadline now =>
      if caller ∈ desk.live then
        (policy.check raised deadline now desk.monitor.look).map fun result =>
          (.ended result, desk)
      else none
  | .release caller =>
      if caller ∈ desk.live then
        some (.quiet, ⟨desk.monitor.release, desk.live.erase caller⟩)
      else none
  | .close => some (.quiet, { desk with monitor := desk.monitor.close })

def run (events : List Event) : Option (List (Event × Answer) × TransferDesk) :=
  replay step {} events

end TransferDesk

/-! ## A transfer and what has happened since it began -/

namespace Transfer

/-- What an event decides for a transfer. -/
def verdict (transfer : Transfer) : Event → Option TransferOutcome
  | .channelEvent channel code =>
      if channel = transfer.channel then transfer.kind.verdict code else none
  | _ => none

/-- The first decision since a transfer began. -/
def decision (transfer : Transfer) (since : List (Event × Answer)) : Option TransferOutcome :=
  since.findSome? fun entry => transfer.verdict entry.1

/-- The packets a transfer has sent. -/
def sent (transfer : Transfer) (since : List (Event × Answer)) : Nat :=
  since.countP fun entry => entry.1 = .packetSent transfer.caller

/-- The packets a transfer still has to send. -/
def unsent (transfer : Transfer) (since : List (Event × Answer)) : Nat :=
  if transfer.decision since = none then transfer.packets - transfer.sent since else 0

/-- A transfer that has begun and that its caller has not let go of since. -/
def Underway (transfer : Transfer) (log since : List (Event × Answer)) : Prop :=
  ∃ before policy raised deadline now,
    log = before ++ (.begin transfer policy raised deadline now, .began (.ok ())) :: since ∧
      ∀ entry ∈ since, entry.1 ≠ .release transfer.caller

/-- The desk while a transfer is under way. -/
def desk (transfer : Transfer) (since : List (Event × Answer)) (closed : Bool) : TransferDesk where
  monitor :=
    { busy := true, channel := transfer.channel, kind := some transfer.kind
      outstanding := transfer.unsent since, outcome := transfer.decision since, closed }
  live := [transfer.caller]

variable {transfer : Transfer} {since : List (Event × Answer)} {entry : Event × Answer}

/-- Later events do not change a decision. -/
theorem decision_concat :
    transfer.decision (since ++ [entry]) =
      (transfer.decision since).or (transfer.verdict entry.1) := by
  rw [decision, List.findSome?_append, List.findSome?_singleton]
  rfl

theorem sent_concat :
    transfer.sent (since ++ [entry]) =
      transfer.sent since + if entry.1 = .packetSent transfer.caller then 1 else 0 := by
  rw [sent, List.countP_append, List.countP_singleton]
  simp only [decide_eq_true_eq]
  rfl

/-- Events that decide nothing and send nothing leave no trace. -/
theorem desk_concat_of_quiet (hverdict : transfer.verdict entry.1 = none)
    (hsends : entry.1 ≠ .packetSent transfer.caller) (closed : Bool) :
    transfer.desk (since ++ [entry]) closed = transfer.desk since closed := by
  rw [desk, desk, unsent, unsent, decision_concat, sent_concat, hverdict, Option.or_none,
    if_neg hsends, Nat.add_zero]

theorem onEvent_desk (channel code : UInt8) (closed : Bool) (answer : Answer) :
    (transfer.desk since closed).monitor.onEvent channel code =
      (transfer.desk (since ++ [(.channelEvent channel code, answer)]) closed).monitor := by
  cases hdecision : transfer.decision since with
  | some outcome =>
      simp [TransferMonitor.onEvent, desk, unsent, decision_concat, hdecision]
  | none =>
      by_cases hchannel : transfer.channel = channel
      · cases hverdict : transfer.kind.verdict code <;>
          simp [TransferMonitor.onEvent, TransferKind.decides_eq_verdict, desk, unsent,
            decision_concat, sent_concat, verdict, hdecision, hchannel, hverdict]
      · simp [TransferMonitor.onEvent, desk, unsent, decision_concat, sent_concat, verdict,
          hdecision, hchannel, Ne.symm hchannel]

theorem packetSent_desk (closed : Bool) (answer : Answer) :
    (transfer.desk since closed).monitor.packetSent =
      (transfer.desk (since ++ [(.packetSent transfer.caller, answer)]) closed).monitor := by
  simp only [TransferMonitor.packetSent, desk, unsent, decision_concat, sent_concat, verdict,
    Option.or_none, if_true]
  split
  next => rw [Nat.sub_add_eq]
  next => rfl

end Transfer

namespace TransferDesk

variable {desk next : TransferDesk} {transfer : Transfer} {event : Event} {answer : Answer}
  {log since : List (Event × Answer)}

/-! ## Everything a step can do -/

/-- Everything an event can do at a desk. -/
inductive Stepped (desk : TransferDesk) : Event → Answer × TransferDesk → Prop where
  | begun (transfer : Transfer) (policy : WaitPolicy) (raised : Bool) (deadline : Option Nat)
      (now : Nat) (hopen : desk.monitor.closed = false) (hfree : desk.monitor.busy = false) :
      Stepped desk (.begin transfer policy raised deadline now)
        (.began (.ok ()),
          ⟨(transfer.desk [] false).monitor, desk.live ++ [transfer.caller]⟩)
  | refused (transfer : Transfer) (policy : WaitPolicy) (raised : Bool) (deadline : Option Nat)
      (now : Nat) (error : WaitError)
      (htaken : desk.monitor.closed = true ∨ desk.monitor.busy = true) :
      Stepped desk (.begin transfer policy raised deadline now) (.began (.error error), desk)
  | followed (channel code : UInt8) :
      Stepped desk (.channelEvent channel code)
        (.quiet, { desk with monitor := desk.monitor.onEvent channel code })
  | sent {caller : Nat} (hlive : caller ∈ desk.live) :
      Stepped desk (.packetSent caller)
        (.quiet, { desk with monitor := desk.monitor.packetSent })
  | waited {caller : Nat} (policy : WaitPolicy) (raised : Bool) (deadline : Option Nat)
      (now : Nat) (result : Except WaitError TransferOutcome) (hlive : caller ∈ desk.live) :
      Stepped desk (.wait caller policy raised deadline now) (.ended result, desk)
  | released {caller : Nat} (hlive : caller ∈ desk.live) :
      Stepped desk (.release caller) (.quiet, ⟨desk.monitor.release, desk.live.erase caller⟩)
  | closed : Stepped desk .close (.quiet, { desk with monitor := desk.monitor.close })

/-- An attempt to begin succeeds at once on a free monitor. -/
theorem step_begin_of_free (hopen : desk.monitor.closed = false)
    (hfree : desk.monitor.busy = false) (policy : WaitPolicy) (raised : Bool)
    (deadline : Option Nat) (now : Nat) :
    desk.step (.begin transfer policy raised deadline now) =
      some (.began (.ok ()),
        ⟨(transfer.desk [] false).monitor, desk.live ++ [transfer.caller]⟩) := by
  rw [step, TransferMonitor.tryBegin, if_neg (by simp [hopen]), if_neg (by simp [hfree])]
  simp only [WaitPolicy.check, Option.map_some, Except.isOk, Except.toBool, if_true, hopen]
  rfl

theorem stepped_of_begin {policy : WaitPolicy} {raised : Bool} {deadline : Option Nat} {now : Nat}
    (hstep : desk.step (.begin transfer policy raised deadline now) = some (answer, next)) :
    desk.Stepped (.begin transfer policy raised deadline now) (answer, next) := by
  have hlook := hstep
  change Option.map (fun result => (Answer.began result, TransferDesk.mk
    (desk.monitor.tryBegin transfer.channel transfer.kind transfer.packets).2
    (if result.isOk then desk.live ++ [transfer.caller] else desk.live))) _ = _ at hlook
  obtain ⟨result, hcheck, heq⟩ := Option.map_eq_some_iff.mp hlook
  rcases TransferMonitor.check_tryBegin hcheck with
    ⟨rfl, hopen, hfree, _⟩ | ⟨error, rfl, htaken, hnext⟩
  · rw [step_begin_of_free hopen hfree] at hstep
    cases hstep
    exact .begun _ _ _ _ _ hopen hfree
  · rw [hnext] at heq
    cases heq
    exact .refused _ _ _ _ _ _ htaken

theorem stepped (hstep : desk.step event = some (answer, next)) :
    desk.Stepped event (answer, next) := by
  cases event with
  | begin => exact stepped_of_begin hstep
  | channelEvent channel code =>
      cases hstep
      exact .followed channel code
  | packetSent caller =>
      rw [step] at hstep
      split at hstep
      next hlive =>
        cases hstep
        exact .sent hlive
      next => cases hstep
  | wait caller policy raised deadline now =>
      rw [step] at hstep
      split at hstep
      next hlive =>
        obtain ⟨result, _, heq⟩ := Option.map_eq_some_iff.mp hstep
        cases heq
        exact .waited _ _ _ _ result hlive
      next => cases hstep
  | release caller =>
      rw [step] at hstep
      split at hstep
      next hlive =>
        cases hstep
        exact .released hlive
      next => cases hstep
  | close =>
      cases hstep
      exact .closed

/-! ## What a step preserves -/

/-- What happens while a transfer is under way shows in its state as part of its history. -/
theorem Stepped.desk_eq {closed : Bool}
    (hstepped : (transfer.desk since closed).Stepped event (answer, next))
    (hheld : event ≠ .release transfer.caller) :
    next = transfer.desk (since ++ [(event, answer)]) next.monitor.closed := by
  have hquiet := fun (event : Event) (answer : Answer) =>
    @Transfer.desk_concat_of_quiet transfer since (event, answer)
  cases hstepped with
  | begun _ _ _ _ _ _ hfree => cases hfree
  | refused | waited =>
      rw [hquiet _ _ rfl (by simp)]
      rfl
  | followed channel code =>
      rw [Transfer.onEvent_desk]
      rfl
  | sent hlive =>
      rw [List.mem_singleton.mp hlive, Transfer.packetSent_desk]
      rfl
  | released hlive =>
      rw [List.mem_singleton.mp hlive] at hheld
      exact absurd rfl hheld
  | closed =>
      rw [hquiet _ _ rfl (by simp)]
      rfl

theorem Stepped.closed_iff (hstepped : desk.Stepped event (answer, next)) :
    next.monitor.closed = true ↔ desk.monitor.closed = true ∨ event = .close := by
  cases hstepped with
  | begun _ _ _ _ _ hopen _ => simp [hopen, Transfer.desk]
  | followed channel code =>
      rw [TransferMonitor.onEvent_frame]
      simp
  | refused | sent | waited => simp [TransferMonitor.packetSent]
  | released => simp [TransferMonitor.release]
  | closed => simp [TransferMonitor.close]

/-- A transfer under way after an event was under way before it, or has just begun. -/
theorem underway_concat
    (hunderway : transfer.Underway (log ++ [(event, answer)]) since) :
    (since = [] ∧ ∃ policy raised deadline now,
        event = .begin transfer policy raised deadline now ∧ answer = .began (.ok ())) ∨
      ∃ earlier, since = earlier ++ [(event, answer)] ∧ transfer.Underway log earlier ∧
        event ≠ .release transfer.caller := by
  obtain ⟨before, policy, raised, deadline, now, hlog, hheld⟩ := hunderway
  rcases List.eq_nil_or_concat since with rfl | ⟨earlier, last, rfl⟩
  · obtain ⟨_, hlast⟩ := List.append_inj' hlog rfl
    cases hlast
    exact .inl ⟨rfl, policy, raised, deadline, now, rfl, rfl⟩
  · rw [List.concat_eq_append] at hlog hheld ⊢
    rw [← List.cons_append, ← List.append_assoc] at hlog
    obtain ⟨rfl, hlast⟩ := List.append_inj' hlog rfl
    cases hlast
    refine .inr ⟨earlier, rfl, ⟨before, policy, raised, deadline, now, rfl, fun entry hentry => ?_⟩,
      ?_⟩
    · exact hheld entry (List.mem_append_left _ hentry)
    · exact hheld _ List.mem_concat_self

theorem underway_of_before (hunderway : transfer.Underway log since)
    (hheld : event ≠ .release transfer.caller) :
    transfer.Underway (log ++ [(event, answer)]) (since ++ [(event, answer)]) := by
  obtain ⟨before, policy, raised, deadline, now, rfl, hsince⟩ := hunderway
  refine ⟨before, policy, raised, deadline, now, by simp, fun entry hentry => ?_⟩
  rcases List.mem_append.mp hentry with hold | hnew
  · exact hsince entry hold
  · rw [List.mem_singleton.mp hnew]
    exact hheld

/-- A desk as its log says: free, or taken by the one transfer under way. -/
structure Lawful (log : List (Event × Answer)) (desk : TransferDesk) : Prop where
  closed : desk.monitor.closed = true ↔ .close ∈ log.map Prod.fst
  free : desk.live = [] → desk.monitor.busy = false ∧ desk.monitor.kind = none
  taken : desk.live ≠ [] → ∃ transfer since, Transfer.Underway transfer log since
  underway : ∀ transfer since, Transfer.Underway transfer log since →
    desk = transfer.desk since desk.monitor.closed

/-- A desk that is taken is that of the transfer under way. -/
theorem Lawful.exists_desk (hlawful : Lawful log desk) (hlive : desk.live ≠ []) :
    ∃ transfer since, Transfer.Underway transfer log since ∧
      desk = transfer.desk since desk.monitor.closed := by
  obtain ⟨transfer, since, hunderway⟩ := hlawful.taken hlive
  exact ⟨transfer, since, hunderway, hlawful.underway transfer since hunderway⟩

theorem Lawful.live_eq_nil (hlawful : Lawful log desk) (hfree : desk.monitor.busy = false) :
    desk.live = [] := by
  cases hlive : desk.live with
  | nil => rfl
  | cons caller rest =>
      obtain ⟨transfer, since, _, hdesk⟩ :=
        hlawful.exists_desk (hlive ▸ List.cons_ne_nil caller rest)
      rw [hdesk] at hfree
      cases hfree

theorem Lawful.free_step (hlawful : Lawful log desk)
    (hstepped : desk.Stepped event (answer, next)) (hlive : next.live = []) :
    next.monitor.busy = false ∧ next.monitor.kind = none := by
  cases hstepped with
  | begun => exact absurd hlive (List.append_ne_nil_of_right_ne_nil _ (List.cons_ne_nil _ _))
  | refused | waited => exact hlawful.free hlive
  | followed channel code =>
      have hfree := hlawful.free hlive
      rwa [TransferMonitor.onEvent_of_idle hfree.2]
  | sent hmem =>
      change desk.live = [] at hlive
      rw [hlive] at hmem
      cases hmem
  | released => exact ⟨rfl, rfl⟩
  | closed => exact hlawful.free hlive

theorem Lawful.taken_step (hlawful : Lawful log desk)
    (hstepped : desk.Stepped event (answer, next)) (hlive : next.live ≠ []) :
    ∃ transfer since, Transfer.Underway transfer (log ++ [(event, answer)]) since := by
  have hgoesOn : desk.live ≠ [] → (∀ caller, event ≠ .release caller) →
      ∃ transfer since, Transfer.Underway transfer (log ++ [(event, answer)]) since := by
    intro hbefore hheld
    obtain ⟨transfer, since, hunderway⟩ := hlawful.taken hbefore
    exact ⟨transfer, _, underway_of_before hunderway (hheld _)⟩
  cases hstepped with
  | begun transfer policy raised deadline now =>
      exact ⟨transfer, [], log, policy, raised, deadline, now, rfl, nofun⟩
  | refused | followed | sent | waited | closed => exact hgoesOn hlive nofun
  | released hmem =>
      obtain ⟨transfer, since, _, hdesk⟩ := hlawful.exists_desk (List.ne_nil_of_mem hmem)
      have hone : desk.live = [transfer.caller] := by
        rw [hdesk]
        rfl
      rw [hone] at hmem hlive
      rw [List.mem_singleton.mp hmem, List.erase_cons_head] at hlive
      exact absurd rfl hlive

theorem Lawful.step (hlawful : Lawful log desk) (hstep : desk.step event = some (answer, next)) :
    Lawful (log ++ [(event, answer)]) next := by
  have hstepped := stepped hstep
  refine ⟨?_, hlawful.free_step hstepped, hlawful.taken_step hstepped, ?_⟩
  · rw [List.map_append, List.mem_append, ← hlawful.closed, hstepped.closed_iff,
      List.map_singleton, List.mem_singleton]
    exact or_congr_right eq_comm
  · intro transfer since hunderway
    rcases underway_concat hunderway with ⟨rfl, policy, raised, deadline, now, rfl, rfl⟩ |
      ⟨earlier, rfl, hbefore, hheld⟩
    · cases hstepped with
      | begun _ _ _ _ _ _ hfree =>
          rw [hlawful.live_eq_nil hfree]
          rfl
    · have hdesk := hlawful.underway transfer earlier hbefore
      rw [hdesk] at hstepped
      exact hstepped.desk_eq hheld

theorem Lawful.of_run {events : List Event} (hrun : run events = some (log, desk)) :
    Lawful log desk := by
  have hstart : Lawful [] {} := by
    refine ⟨by simp, fun _ => ⟨rfl, rfl⟩, fun hlive => absurd rfl hlive, ?_⟩
    rintro transfer since ⟨before, policy, raised, deadline, now, hlog, _⟩
    exact absurd hlog (by simp)
  exact replay_invariant hstart (fun _ _ _ _ _ hlawful hstep => hlawful.step hstep) hrun

/-! ## What callers may expect -/

theorem step_begin_iff {policy : WaitPolicy} {raised : Bool} {deadline : Option Nat} {now : Nat} :
    (∃ next, desk.step (.begin transfer policy raised deadline now) =
        some (.began (.ok ()), next)) ↔
      desk.monitor.closed = false ∧ desk.monitor.busy = false := by
  constructor
  · rintro ⟨next, hstep⟩
    cases stepped hstep with
    | begun _ _ _ _ _ hopen hfree => exact ⟨hopen, hfree⟩
  · rintro ⟨hopen, hfree⟩
    exact ⟨_, step_begin_of_free hopen hfree policy raised deadline now⟩

/-- A holder's wait returns an outcome exactly when one is decided. -/
theorem step_wait_iff {closed : Bool} {policy : WaitPolicy} {raised : Bool}
    {deadline : Option Nat} {now : Nat} {outcome : TransferOutcome} :
    (∃ next, (transfer.desk since closed).step
          (.wait transfer.caller policy raised deadline now) =
        some (.ended (.ok outcome), next)) ↔
      transfer.decision since = some outcome := by
  have hlive : transfer.caller ∈ (transfer.desk since closed).live := List.mem_singleton_self _
  have hcheck : policy.check raised deadline now (transfer.desk since closed).monitor.look =
      some (.ok outcome) ↔ transfer.decision since = some outcome := TransferMonitor.check_look
  rw [step, if_pos hlive, ← hcheck]
  constructor
  · rintro ⟨next, hstep⟩
    obtain ⟨result, hresult, heq⟩ := Option.map_eq_some_iff.mp hstep
    cases heq
    exact hresult
  · intro hresult
    rw [hresult]
    exact ⟨_, rfl⟩

/-- Only an event that decides the transfer under way has an effect. -/
theorem Lawful.onEvent_eq (hlawful : Lawful log desk) {channel code : UInt8}
    (hnothing : ∀ transfer since, Transfer.Underway transfer log since →
      transfer.decision since = none → transfer.verdict (.channelEvent channel code) = none) :
    desk.monitor.onEvent channel code = desk.monitor := by
  by_cases hlive : desk.live = []
  · exact TransferMonitor.onEvent_of_idle (hlawful.free hlive).2
  · obtain ⟨transfer, since, hunderway, hdesk⟩ := hlawful.exists_desk hlive
    rw [hdesk]
    cases hdecision : transfer.decision since with
    | none =>
        have hverdict := hnothing transfer since hunderway hdecision
        rw [Transfer.onEvent_desk _ _ _ .quiet,
          Transfer.desk_concat_of_quiet hverdict (by simp)]
    | some outcome => exact TransferMonitor.onEvent_of_decided hdecision

/-- How every wait of a holder ends at a closed monitor. -/
def closingResult (desk : TransferDesk) : Except WaitError TransferOutcome :=
  match desk.monitor.outcome with
  | some outcome => .ok outcome
  | none => .error .closed

/-- A closed monitor admits nobody, and no wait has to go on: it ends at its first look, with the
outcome if one is recorded. Nothing comes before that look but the panic of a wait whose deadline
the clock cannot hold. -/
structure Closed (desk : TransferDesk) : Prop where
  closed : desk.monitor.closed = true
  begins : ∀ transfer policy raised deadline now,
    desk.step (.begin transfer policy raised deadline now) =
      some (.began (.error .closed), desk)
  waits : ∀ caller ∈ desk.live, ∀ policy raised deadline now,
    desk.step (.wait caller policy raised deadline now) =
      some (.ended desk.closingResult, desk)
  beginsAlone : ∀ (transfer : Transfer) policy raised now,
    desk.monitor.begin transfer.channel transfer.kind transfer.packets policy raised now =
      ((policy.deadline now).map fun _ => some (.error .closed), desk.monitor)
  waitsAlone : ∀ policy raised now,
    desk.monitor.wait policy raised now =
      (policy.deadline now).map fun _ => some desk.closingResult

/-- At most one transfer is live, and the monitor is busy and has a kind just then. The state of the
transfer under way is that of its own history: as long as nothing has decided it, what it has not
sent is outstanding, and from the first decision on that is its outcome. A transfer begins exactly
when the monitor is open and free, a wait returns what is decided, and every event that does not
decide the transfer under way changes nothing. -/
theorem run_follows_transfers {events : List Event} (hrun : run events = some (log, desk)) :
    (desk.live.length ≤ 1 ∧ (desk.monitor.busy = true ↔ desk.live ≠ []) ∧
        (desk.monitor.kind.isSome ↔ desk.live ≠ []) ∧
        (desk.live ≠ [] ↔ ∃ transfer since, Transfer.Underway transfer log since) ∧
        (desk.monitor.closed = true ↔ .close ∈ events)) ∧
      (∀ transfer since, Transfer.Underway transfer log since →
        desk = transfer.desk since desk.monitor.closed ∧
        ∀ policy raised deadline now outcome,
          (∃ next, desk.step (.wait transfer.caller policy raised deadline now) =
            some (.ended (.ok outcome), next)) ↔ transfer.decision since = some outcome) ∧
      (∀ transfer policy raised deadline now,
        (∃ next, desk.step (.begin transfer policy raised deadline now) =
          some (.began (.ok ()), next)) ↔
        desk.monitor.closed = false ∧ desk.monitor.busy = false) ∧
      ∀ channel code,
        (∀ transfer since, Transfer.Underway transfer log since →
          transfer.decision since = none → transfer.verdict (.channelEvent channel code) = none) →
        desk.step (.channelEvent channel code) = some (.quiet, desk) := by
  have hlawful := Lawful.of_run hrun
  have hunderway : ∀ transfer since, Transfer.Underway transfer log since → desk.live ≠ [] := by
    intro transfer since hunderway
    rw [hlawful.underway transfer since hunderway]
    exact List.cons_ne_nil _ _
  refine ⟨⟨?_, ?_, ?_, ?_, ?_⟩, fun transfer since hsince => ?_,
    fun _ _ _ _ _ => step_begin_iff, fun channel code hnothing => ?_⟩
  · by_cases hlive : desk.live = []
    · simp [hlive]
    · obtain ⟨transfer, since, _, hdesk⟩ := hlawful.exists_desk hlive
      rw [hdesk]
      exact Nat.le_refl 1
  · by_cases hlive : desk.live = []
    · simp [hlive, (hlawful.free hlive).1]
    · obtain ⟨transfer, since, _, hdesk⟩ := hlawful.exists_desk hlive
      rw [hdesk]
      simp [Transfer.desk]
  · by_cases hlive : desk.live = []
    · simp [hlive, (hlawful.free hlive).2]
    · obtain ⟨transfer, since, _, hdesk⟩ := hlawful.exists_desk hlive
      rw [hdesk]
      simp [Transfer.desk]
  · exact ⟨hlawful.taken, fun ⟨transfer, since, hsince⟩ => hunderway transfer since hsince⟩
  · rw [hlawful.closed, replay_events hrun]
  · have hdesk := hlawful.underway transfer since hsince
    refine ⟨hdesk, fun policy raised deadline now outcome => ?_⟩
    rw [hdesk]
    exact step_wait_iff
  · rw [step, hlawful.onEvent_eq hnothing]

/-- A transfer that begins after another one failed starts afresh. -/
theorem run_follows_transfers_of_second :
    ∃ log, run [.begin ⟨1, 0, .burst, 3⟩ ⟨0, false, 1⟩ false none 0, .channelEvent 0 0x06,
          .release 1, .begin ⟨2, 0, .acknowledged, 2⟩ ⟨0, false, 1⟩ false none 0,
          .channelEvent 0 0x03, .packetSent 2, .close] =
      some (log, ⟨⟨true, 0, some .acknowledged, 1, none, true⟩, [2]⟩) := by
  have hrun : run [.begin ⟨1, 0, .burst, 3⟩ ⟨0, false, 1⟩ false none 0, .channelEvent 0 0x06,
          .release 1, .begin ⟨2, 0, .acknowledged, 2⟩ ⟨0, false, 1⟩ false none 0,
          .channelEvent 0 0x03, .packetSent 2, .close] = some
      ([(.begin ⟨1, 0, .burst, 3⟩ ⟨0, false, 1⟩ false none 0, .began (.ok ())),
        (.channelEvent 0 0x06, .quiet), (.release 1, .quiet),
        (.begin ⟨2, 0, .acknowledged, 2⟩ ⟨0, false, 1⟩ false none 0, .began (.ok ())),
        (.channelEvent 0 0x03, .quiet), (.packetSent 2, .quiet), (.close, .quiet)],
        ⟨⟨true, 0, some .acknowledged, 1, none, true⟩, [2]⟩) := rfl
  have hsecond := (run_follows_transfers hrun).2.1 ⟨2, 0, .acknowledged, 2⟩
    [(.channelEvent 0 0x03, .quiet), (.packetSent 2, .quiet), (.close, .quiet)]
    ⟨[_, _, _], _, _, _, _, rfl, by simp⟩
  exact ⟨_, hrun.trans (congrArg _ (congrArg _ hsecond.1))⟩

end TransferDesk

end AntHost
