import AntHost.Proofs.Session.Bookkeeping
import AntHost.Proofs.Session.Panics
/-!
# The deadlines of calls

A call with a timeout waits in stages, and what one stage does not use the next one has. In every
run, whatever comes between two of its looks at the clock, each wait of a call has its share of the
one timeout that the call was given, and ends when that is over, but for what passed between the
look that told its share and the one with which it began. No wait of a call with a timeout is
endless. A call panics only where a wait of it was to begin whose deadline the clock cannot hold.
-/

namespace AntHost

/-! ## What the ledger says of the clock -/

namespace Entry

/-- What the clock showed a thread. -/
def reading? (thread : Nat) : Entry → Option Nat
  | performed performer .now reading => if performer = thread then some reading else none
  | _ => none

/-- What a thread was told of the cancel flag. -/
def flag? (thread : Nat) : Entry → Option Bool
  | performed performer .cancelInstalled flag => if performer = thread then some flag else none
  | _ => none

end Entry

namespace Books

/-- All that the clock and the cancel flag were to a thread. -/
def clockOf (ledger : List Entry) (thread : Nat) : ClockStage :=
  ⟨ledger.filterMap (Entry.reading? thread), ledger.filterMap (Entry.flag? thread)⟩

theorem clockOf_append_performed (ledger : List Entry) (performer : Nat) (op : Op)
    (reply : op.Reply) (thread : Nat) :
    clockOf (ledger ++ [.performed performer op reply]) thread =
      if performer = thread then (clockOf ledger thread).next op reply
      else clockOf ledger thread := by
  rw [clockOf, List.filterMap_append, List.filterMap_append]
  split
  next hsame =>
    subst hsame
    cases op <;> simp [clockOf, ClockStage.next, Entry.reading?, Entry.flag?]
  next hother => cases op <;> simp [clockOf, Entry.reading?, Entry.flag?, hother]

theorem clockOf_append_other {entry : Entry}
    (hentry : ∀ performer op reply, entry ≠ .performed performer op reply) (ledger : List Entry)
    (thread : Nat) : clockOf (ledger ++ [entry]) thread = clockOf ledger thread := by
  cases entry with
  | performed performer op reply => exact absurd rfl (hentry performer op reply)
  | _ => simp [clockOf, Entry.reading?, Entry.flag?]

end Books

/-! ## Waits that end in time -/

theorem WaitPolicy.isSome_check {α : Type} {policy : WaitPolicy} {raised : Bool}
    {deadline : Option Nat} {now limit : Nat} {found : Option (Except WaitError α)}
    (hlimit : limit ∈ deadline) (hover : limit ≤ now) :
    (policy.check raised deadline now found).isSome := by
  cases hlimit
  cases found with
  | some result => rfl
  | none =>
      rw [check, Option.isSome_map, givesUp]
      split <;> rfl

/-- A wait can end once its deadline is over. -/
theorem Op.exists_exec_of_over {H β : Type} {op : Op} {policy : WaitPolicy} {deadline : Option Nat}
    {now limit : Nat} {link : Except TransportError Unit} {session : Session H β}
    (hwait : op.wait? = some (policy, deadline)) (hlimit : limit ∈ deadline) (hover : limit ≤ now) :
    (op.exec now link session).isSome := by
  cases op with
  | awaitResponse | beginTransfer | awaitOutcome =>
      cases hwait
      exact Option.isSome_map.trans (WaitPolicy.isSome_check hlimit hover)
  | _ => cases hwait

theorem ClockStage.waits_of_allows {config : Config} {call : Call} {stage : ClockStage} {op : Op}
    {policy : WaitPolicy} {deadline : Option Nat} (hwait : op.wait? = some (policy, deadline))
    (hallows : stage.Allows config call op) : stage.Waits config call policy deadline := by
  cases op with
  | awaitResponse | beginTransfer | awaitOutcome =>
      cases hwait
      exact hallows
  | _ => cases hwait

/-- At its last look at the clock a burst had time left, but for what passed before it began. -/
def ClockStage.HadTime (call : Call) (now : Nat) (stage : ClockStage) : Prop :=
  ∃ start begun taken began looks look,
    stage.readings = [start, begun, taken, began] ++ looks ++ [look] ∧
      start ≤ taken ∧ taken ≤ began ∧ began ≤ look ∧ look ≤ now ∧
      (call.budget ≠ 0 → look < start + call.budget + (began - taken))

theorem ClockStage.Lasts.hadTime {config : Config} {call : Call} {stage : ClockStage} {now : Nat}
    (hlasts : stage.Lasts config call) (hread : ReadUpTo now stage.readings) :
    stage.HadTime call now := by
  obtain ⟨flag, start, begun, taken, began, looks, look, share, _, hreadings, hshare⟩ := hlasts
  rw [hreadings] at hread
  obtain ⟨hearlier, _, hlast⟩ := List.pairwise_append.mp hread.1
  obtain ⟨hfirst, _, _⟩ := List.pairwise_append.mp hearlier
  have htaken : start ≤ taken := (List.pairwise_cons.mp hfirst).1 taken (by simp)
  have hbegan : taken ≤ began := by
    have htail := (List.pairwise_cons.mp (List.pairwise_cons.mp hfirst).2).2
    exact (List.pairwise_cons.mp htail).1 began (by simp)
  have hlook : began ≤ look := hlast began (by simp) look (List.mem_singleton_self _)
  refine ⟨start, begun, taken, began, looks, look, hreadings, htaken, hbegan, hlook,
    hread.2 look (by simp), fun hfinite => Nat.lt_of_not_le fun hlate => ?_⟩
  have hover : call.budget ≤ Handover.spent start [⟨taken, began⟩, ⟨look, look⟩] := by
    simp only [Handover.spent]
    omega
  have hnone : (call.policy config flag).handDown start [⟨taken, began⟩, ⟨look, look⟩] =
      .error .timeout :=
    WaitPolicy.handDown_eq_error_iff.mpr ⟨rfl, hfinite, hover⟩
  cases hnone.symm.trans hshare

/-! ## Runs -/

namespace Machine

variable {H β : Type} [DecidableEq β] {config : Config} {events : List (Event H β)}
  {machine next : Machine H β} {event : Event H β} {stages later : Nat → ClockStage}
  {ledger : List Entry}

/-- Threads are at the stages that the ledger tells. -/
def Clocked (ledger : List Entry) (stages : Nat → ClockStage) : Prop :=
  ∀ thread, stages thread = Books.clockOf ledger thread

theorem Clocked.quiet (hclocked : Clocked ledger stages) {entered : Option Entry}
    (hentry : ∀ performer op reply, entered ≠ some (.performed performer op reply)) :
    Clocked (ledger ++ entered.toList) stages := by
  intro thread
  cases entered with
  | none => rw [Option.toList_none, List.append_nil, hclocked thread]
  | some entry =>
      rw [Option.toList_some, Books.clockOf_append_other, hclocked thread]
      rintro performer op reply rfl
      exact hentry performer op reply rfl

theorem Clocked.step (hclocked : Clocked ledger stages)
    (hconducted : Conducted (clockConduct config) config events machine stages)
    (hadvances : Advances (clockConduct config) machine stages event next later) :
    Clocked (ledger ++ (machine.entered? event).toList) later := by
  cases hadvances with
  | begun call onRouter =>
      have hsame : Function.update stages machine.threads.length
          ((clockConduct config).enter call) = stages := hconducted.update_idle
      rw [hsame]
      exact hclocked.quiet nofun
  | @performed performer link op rest reply session hthread hexec =>
      rw [entered?_of_performed hthread hexec, Option.toList_some]
      intro thread
      rw [Books.clockOf_append_performed, ← hclocked thread]
      by_cases hsame : performer = thread
      · subst hsame
        rw [if_pos rfl, Function.update_self]
        rfl
      · rw [if_neg hsame, Function.update_of_ne (Ne.symm hsame)]
  | routed message => exact hclocked.quiet nofun
  | @changed event _ _ _ hperform hroute =>
      refine hclocked.quiet fun performer op reply hentry => ?_
      rcases @entered?_of_changed _ _ machine event hperform hroute with
        hnone | hnone | hnone <;> cases hentry.symm.trans hnone

/-- In every run the threads keep to their time. -/
theorem exists_clocked (hrun : (start config).run events = some machine) :
    ∃ stages, Conducted (clockConduct config) config events machine stages ∧
      Clocked ((start config : Machine H β).ledger events) stages ∧ ReadInOrder machine stages := by
  have hfresh : Clocked ((start config : Machine H β).ledger []) (fun _ => {}) ∧
      ReadInOrder (start config : Machine H β) fun _ => {} :=
    ⟨fun _ => rfl, fun _ => ⟨List.Pairwise.nil, nofun⟩⟩
  have hfinal := Conducted.run (Call.keepsTime config)
    (fun earlier middle current => Clocked ((start config).ledger earlier) current ∧
      ReadInOrder middle current)
    (.fresh (clockConduct config) config) hfresh ?_ hrun
  · rwa [List.nil_append] at hfinal
  · rintro earlier middle event next current later _ hconducted ⟨hclocked, hread⟩ _ hadvances
    rw [ledger_concat hconducted.reached]
    exact ⟨hclocked.step hconducted hadvances, hread.step hconducted hadvances⟩

/-- A wait of a call has its share of the call's one timeout: it watches the cancel flag and polls
as the call does, is endless only if the call is, and ends when the call's time is over, but for
what passed before it began. The clock can hold that instant. -/
structure InTime (config : Config) (ledger : List Entry) (machine : Machine H β) (thread : Nat)
    (call : Call) (policy : WaitPolicy) (deadline : Option Nat) : Prop where
  flags : (Books.clockOf ledger thread).flags = [policy.watchesCancel]
  cancelPoll : policy.cancelPoll = config.cancelPollInterval
  timeout_eq_zero : policy.timeout = 0 ↔ call.budget = 0
  deadline_eq : ∃ start taken began,
    SharedAt (Books.clockOf ledger thread).readings start taken began ∧
      start ≤ taken ∧ taken ≤ began ∧ began ≤ machine.now ∧
      (call.budget = 0 ∧ deadline = none ∨
        call.budget ≠ 0 ∧ start + call.budget + (began - taken) < clockEnd ∧
          deadline = some (start + call.budget + (began - taken)))
  /-- Once its deadline is over, the wait can end. -/
  ends : ∀ limit ∈ deadline, limit ≤ machine.now →
    ∀ link, (machine.step (.perform thread link)).isSome

/-- A wait of a call was to begin when the clock could not hold the end of the call's time, put off
by what passed before the wait began. -/
def Overran (ledger : List Entry) (machine : Machine H β) (thread : Nat) (call : Call) : Prop :=
  ∃ start taken began,
    SharedAt (Books.clockOf ledger thread).readings start taken began ∧
      start ≤ taken ∧ taken ≤ began ∧ began ≤ machine.now ∧
      call.budget ≠ 0 ∧ clockEnd ≤ start + call.budget + (began - taken)

theorem inTime {stages : Nat → ClockStage}
    (hconducted : Conducted (clockConduct config) config events machine stages)
    (hclocked : Clocked ledger stages) (hread : ReadInOrder machine stages) {thread : Nat}
    {call : Call} {op : Op}
    (hcall : (calls events)[thread]? = some call) (hnext : machine.nextOp? thread = some op)
    {policy : WaitPolicy} {deadline : Option Nat} (hwait : op.wait? = some (policy, deadline)) :
    InTime config ledger machine thread call policy deadline := by
  have hread := hread thread
  have hallows := hconducted.allows_of_nextOp? hcall hnext
  rw [hclocked thread] at hallows hread
  obtain ⟨began, hbegins, hfits⟩ := ClockStage.waits_of_allows hwait hallows
  obtain ⟨start, taken, hshared, htaken, hbegan, hnow, hshares⟩ := hbegins.shares hread
  refine ⟨hbegins.1, hshares.cancelPoll, hshares.timeout_eq_zero, ?_,
    fun limit hlimit hover link => ?_⟩
  · refine ⟨start, taken, began, hshared, htaken, hbegan, hnow, ?_⟩
    rw [hshares.deadline] at hfits
    rw [Nat.add_right_comm]
    exact WaitPolicy.deadline_eq_ok_iff.mp hfits
  · obtain ⟨rest, hthread⟩ := getElem?_of_nextOp? hnext
    obtain ⟨⟨reply, session⟩, hexec⟩ :=
      Option.isSome_iff_exists.mp (Op.exists_exec_of_over hwait hlimit hover)
    rw [step_perform hthread hexec]
    rfl

theorem overran {stages : Nat → ClockStage}
    (hconducted : Conducted (clockConduct config) config events machine stages)
    (hclocked : Clocked ledger stages) (hread : ReadInOrder machine stages) {thread : Nat}
    {call : Call}
    (hcall : (calls events)[thread]? = some call)
    (hpanic : machine.result? thread = some (.error .panicked)) :
    Overran ledger machine thread call := by
  have hread := hread thread
  obtain ⟨policy, began, overflow, hbegins, hover⟩ := hconducted.ends hcall hpanic rfl
  rw [hclocked thread] at hbegins hread
  obtain ⟨start, taken, hshared, htaken, hbegan, hnow, hshares⟩ := hbegins.shares hread
  rw [hshares.deadline] at hover
  obtain ⟨hfinite, hend⟩ := WaitPolicy.deadline_eq_error_iff.mp hover
  refine ⟨start, taken, began, hshared, htaken, hbegan, hnow, hfinite, ?_⟩
  rw [Nat.add_right_comm]
  exact hend

/-- What is left of a policy after some time is all of it, if the policy is endless, or else the
rest as long as there is one, and a timeout from then on; and it is the same whether the time was
counted at once or in parts. So all stages of a chain share one timeout: each gives up as the first
was to, and ends when the first was to, but for the lag, of which there is none where every stage
begins as soon as it is given its share. A deadline is the start and the timeout together, and
working it out panics exactly if the clock cannot hold that; a stage does so where the first would.
In every run each wait of a call is such a stage, and so is what a burst does before each of its
frames, and a call panics only where such a wait was to begin. -/
theorem waits_share_one_timeout :
    (∀ (policy left : WaitPolicy) (elapsed : Nat), policy.remaining elapsed = .ok left ↔
      policy.timeout = 0 ∧ left = policy ∨
        elapsed < policy.timeout ∧ left = { policy with timeout := policy.timeout - elapsed }) ∧
    (∀ (policy : WaitPolicy) (elapsed : Nat) (error : WaitError),
      policy.remaining elapsed = .error error ↔
        error = .timeout ∧ policy.timeout ≠ 0 ∧ policy.timeout ≤ elapsed) ∧
    (∀ (policy : WaitPolicy) (first second : Nat),
      ((policy.remaining first).bind fun left => left.remaining second) =
        policy.remaining (first + second)) ∧
    (∀ (policy : WaitPolicy) (start : Nat),
      (∀ deadline, policy.deadline start = .ok deadline ↔
        policy.timeout = 0 ∧ deadline = none ∨
          policy.timeout ≠ 0 ∧ start + policy.timeout < clockEnd ∧
            deadline = some (start + policy.timeout)) ∧
      ∀ overflow, policy.deadline start = .error overflow ↔
        policy.timeout ≠ 0 ∧ clockEnd ≤ start + policy.timeout) ∧
    (∀ (policy : WaitPolicy) (start : Nat) (chain : List Handover),
      (∀ error, policy.handDown start chain = .error error ↔
        error = .timeout ∧ policy.timeout ≠ 0 ∧ policy.timeout ≤ Handover.spent start chain) ∧
      (Handover.InOrder start chain →
        ∀ share began, policy.handDown start chain = .ok (share, began) →
          policy.Shares start share began (Handover.lag chain) ∧
            ((∀ stage ∈ chain, stage.began = stage.taken) →
              share.deadline began = policy.deadline start))) ∧
    ∀ (config : Config) (events : List (Event H β)) (machine : Machine H β),
      (start config).run events = some machine →
      ∀ thread call, (calls events)[thread]? = some call →
        (∀ op, machine.nextOp? thread = some op →
          (∀ policy deadline, op.wait? = some (policy, deadline) →
            InTime config ((start config : Machine H β).ledger events) machine thread call policy
              deadline) ∧
          (op.isWrite → call.isTimedBurst →
            (Books.clockOf ((start config : Machine H β).ledger events) thread).HadTime call
              machine.now)) ∧
        (machine.result? thread = some (.error .panicked) →
          Overran ((start config : Machine H β).ledger events) machine thread call) := by
  refine ⟨fun _ _ _ => WaitPolicy.remaining_eq_ok_iff,
    fun _ _ _ => WaitPolicy.remaining_eq_error_iff, WaitPolicy.remaining_remaining,
    fun _ _ => ⟨fun _ => WaitPolicy.deadline_eq_ok_iff, fun _ => WaitPolicy.deadline_eq_error_iff⟩,
    fun policy start chain => ⟨fun _ => WaitPolicy.handDown_eq_error_iff, ?_⟩, ?_⟩
  · intro horder share began hshare
    have hshares := WaitPolicy.shares_of_handDown horder hshare
    refine ⟨hshares, fun hprompt => ?_⟩
    rw [hshares.deadline, Handover.lag_eq_zero hprompt, Nat.add_zero]
  · intro config events machine hrun thread call hcall
    obtain ⟨stages, hconducted, hclocked, hread⟩ := exists_clocked hrun
    refine ⟨fun op hnext => ⟨fun policy deadline hwait => ?_, fun hwrite hburst => ?_⟩,
      overran hconducted hclocked hread hcall⟩
    · exact inTime hconducted hclocked hread hcall hnext hwait
    · have hallows := hconducted.allows_of_nextOp? hcall hnext
      have hread := hread thread
      rw [hclocked thread] at hallows hread
      cases op with
      | write frame => exact (hallows hburst).hadTime hread
      | _ => cases hwrite

/-- A chain whose second stage begins at once with the 60 that are left of 100; a request whose
second wait, given its share at 47, begins at 50 and ends 3 later than its time; a burst before its
only frame; and a command whose deadline is the first instant that the clock cannot hold. -/
theorem waits_share_one_timeout_of_calls :
    let policy : WaitPolicy := ⟨100, true, 10⟩
    let request : List (Event Unit Unit) :=
      .begin (.request 0 0x54 (some 100)) false :: List.replicate 4 (.perform 0 (.ok ())) ++
        [.tick 15, .perform 0 (.ok ()), .perform 0 (.ok ()), .tick 2, .perform 0 (.ok ()),
          .route ⟨0x40, [0, 0x4D, 0], by decide⟩, .tick 30] ++
        List.replicate 3 (.perform 0 (.ok ())) ++ [.tick 3, .perform 0 (.ok ())]
    let burst : List (Event Unit Unit) :=
      .begin (.burst 0 [1] (some 100)) false :: List.replicate 6 (.perform 0 (.ok ())) ++
        .tick 90 :: List.replicate 4 (.perform 0 (.ok ()))
    let command : List (Event Unit Unit) :=
      .begin (.command (.openChannel 0) (some (clockEnd - 5))) false :: .tick 5 ::
        List.replicate 6 (.perform 0 (.ok ()))
    (policy.handDown 15 [⟨35, 35⟩, ⟨55, 55⟩] = .ok (⟨60, true, 10⟩, 55) ∧
        policy.Shares 15 ⟨60, true, 10⟩ 55 0 ∧
          WaitPolicy.deadline ⟨60, true, 10⟩ 55 = policy.deadline 15) ∧
      (∃ machine, (start {}).run request = some machine ∧
        (machine.nextOp? 0).bind Op.wait? = some (⟨68, false, 10000000⟩, some 118) ∧
          InTime {} ((start {}).ledger request) machine 0 (.request 0 0x54 (some 100))
            ⟨68, false, 10000000⟩ (some 118)) ∧
      (∃ machine, (start {}).run burst = some machine ∧
        (machine.nextOp? 0).map Op.isWrite = some true ∧
          (Books.clockOf ((start {}).ledger burst) 0).HadTime (.burst 0 [1] (some 100))
            machine.now) ∧
      ∃ machine, (start {}).run command = some machine ∧
        machine.result? 0 = some (.error .panicked) ∧
          Overran ((start {}).ledger command) machine 0
            (.command (.openChannel 0) (some (clockEnd - 5))) := by
  intro policy request burst command
  obtain ⟨-, -, -, -, hchains, hruns⟩ := @waits_share_one_timeout Unit Unit _
  refine ⟨?_, ?_, ?_, ?_⟩
  · have hshare : policy.handDown 15 [⟨35, 35⟩, ⟨55, 55⟩] = .ok (⟨60, true, 10⟩, 55) := rfl
    have horder : Handover.InOrder 15 [⟨35, 35⟩, ⟨55, 55⟩] := by simp [Handover.InOrder]
    obtain ⟨hshares, hprompt⟩ := (hchains policy 15 _).2 horder _ _ hshare
    exact ⟨hshare, hshares, hprompt (by simp)⟩
  · obtain ⟨machine, hrun⟩ := Option.isSome_iff_exists.mp
      (by decide +kernel : ((start {} : Machine Unit Unit).run request).isSome)
    have hnext : ((start {} : Machine Unit Unit).run request).map
        (fun machine => (machine.nextOp? 0).bind Op.wait?) =
          some (some (⟨68, false, 10000000⟩, some 118)) := by decide +kernel
    rw [hrun, Option.map_some, Option.some_inj] at hnext
    obtain ⟨op, hop, hwait⟩ := Option.bind_eq_some_iff.mp hnext
    exact ⟨machine, hrun, hnext, ((hruns {} request machine hrun 0 _ rfl).1 op hop).1 _ _ hwait⟩
  · obtain ⟨machine, hrun⟩ := Option.isSome_iff_exists.mp
      (by decide +kernel : ((start {} : Machine Unit Unit).run burst).isSome)
    have hnext : ((start {} : Machine Unit Unit).run burst).map
        (fun machine => (machine.nextOp? 0).map Op.isWrite) = some (some true) := by
      decide +kernel
    rw [hrun, Option.map_some, Option.some_inj] at hnext
    obtain ⟨op, hop, hwrite⟩ := Option.map_eq_some_iff.mp hnext
    exact ⟨machine, hrun, hnext, ((hruns {} burst machine hrun 0 _ rfl).1 op hop).2 hwrite rfl⟩
  · obtain ⟨machine, hrun⟩ := Option.isSome_iff_exists.mp
      (by decide +kernel : ((start {} : Machine Unit Unit).run command).isSome)
    have hpanic : ((start {} : Machine Unit Unit).run command).map
        (fun machine => machine.result? 0) = some (some (.error .panicked)) := by
      decide +kernel
    rw [hrun, Option.map_some, Option.some_inj] at hpanic
    exact ⟨machine, hrun, hpanic, (hruns {} command machine hrun 0 _ rfl).2 hpanic⟩

end Machine

end AntHost
