import AntHost.Proofs.Tracker.WaitingList
/-!
# Accounts of a waiting list

Every step moves at most one message: into a request that had none, or out of a request that held
it. So a run keeps accounts for each request, and there are as many live requests as were registered
and not given up.
-/

namespace AntHost

open AntHost.Tracker (Event Answer)

/-- The message that a move puts into a request. -/
def Move.acceptedFor (request : Request) : Move → Option Message
  | accepted other message => if other = request then some message else none
  | _ => none

/-- The message that a move takes out of a request. -/
def Move.releasedFrom (request : Request) : Move → Option Message
  | returned other message | discarded other message =>
      if other = request then some message else none
  | accepted .. => none

/-- What an event of each kind can move: an accepted message goes to a request that it answers, a
message that a wait returns comes from a request of that wait, and a message is discarded only with
its request, which is dropped or whose wait panics. -/
inductive Proper : Event → Outcome → Prop where
  | registered (request : Request) :
      Proper (.register request) ⟨.registered request.messageId, []⟩
  | accepted {request : Request} {messageId channel : UInt8} (message : Message)
      (hanswers : request.AnsweredBy messageId channel) :
      Proper (.offer messageId channel message) ⟨.offered true, [.accepted request message]⟩
  | refused (messageId channel : UInt8) (message : Message) :
      Proper (.offer messageId channel message) ⟨.offered false, []⟩
  | returned {event : Event} {request : Request} (message : Message)
      (hwaits : request ∈ event.waitsFor) (hfits : event.overflows = false) :
      Proper event ⟨.ended (.ok message), [.returned request message]⟩
  | gaveUp {event : Event} (error : WaitError) (hwaits : event.waitsFor ≠ [])
      (hfits : event.overflows = false) : Proper event ⟨.ended (.error error), []⟩
  | panicked {event : Event} (hkeeps : event.givesUp = false) (hover : event.overflows = true) :
      Proper event ⟨.panicked, []⟩
  | unwound {request : Request} {policy : WaitPolicy} {raised : Bool} {now : Nat}
      (hover : (Event.wait request policy raised now).overflows = true) (lost : Option Message) :
      Proper (.wait request policy raised now)
        ⟨.panicked, (lost.map (Move.discarded request)).toList⟩
  | dropped (request : Request) (lost : Option Message) :
      Proper (.drop request) ⟨.quiet, (lost.map (Move.discarded request)).toList⟩
  | closed : Proper .close ⟨.quiet, []⟩

namespace WaitingList

variable {list next : WaitingList} {event : Event} {outcome : Outcome} {request : Request}

/-! ## What each operation does to the stored responses -/

theorem stored_of_mem (hnodup : (list.holders.map Holder.request).Nodup) {holder : Holder}
    (hholder : holder ∈ list.holders) : list.stored holder.request = holder.response := by
  rw [stored, find?_of_nodup_map hnodup hholder, Option.bind_some]

theorem map_request_give (request : Request) (response : Option Message) :
    (list.give request response).holders.map Holder.request =
      list.holders.map Holder.request := by
  rw [give, List.map_map]
  exact List.map_congr_left fun holder _ => holder.request_given request response

theorem stored_give (hholds : list.Holds request) (response : Option Message) (other : Request) :
    (list.give request response).stored other =
      if other = request then response else list.stored other := by
  have hfind : (list.give request response).stored other =
      (list.holders.find? fun holder => holder.request = other).bind fun holder =>
        (holder.given request response).response := by
    rw [stored, give, List.find?_map]
    simp only [Function.comp_def, Holder.request_given, Option.bind_map]
  rw [hfind, stored]
  cases hfound : list.holders.find? fun holder => holder.request = other with
  | none =>
      split
      next heq =>
        subst heq
        obtain ⟨holder, hholder, hsame⟩ := List.mem_map.mp hholds
        exact absurd (List.find?_eq_none.mp hfound holder hholder) (by simp [hsame])
      next => rfl
  | some holder =>
      have hsame : holder.request = other := by simpa using List.find?_some hfound
      subst hsame
      rw [Option.bind_some, Option.bind_some, Holder.given]
      split <;> rfl

theorem stored_leave (request other : Request) :
    (list.leave request).stored other = if other = request then none else list.stored other := by
  rw [stored, leave, List.find?_filter]
  split
  next heq =>
    rw [List.find?_eq_none.mpr, Option.bind_none]
    intro holder _
    simp [heq]
  next hne =>
    rw [stored]
    congr 2
    funext holder
    by_cases hsame : holder.request = other
    · simp [hsame, hne]
    · simp [hsame]

theorem stored_register (request other : Request) :
    ({ list with holders := list.holders ++ [{ request }] } : WaitingList).stored other =
      list.stored other := by
  rw [stored, stored, List.find?_append]
  cases hfound : list.holders.find? fun holder => holder.request = other with
  | some holder => rfl
  | none => by_cases hsame : request = other <;> simp [hsame]

/-- A message goes to the holder of a live request that accepts it. -/
theorem exists_holder_of_taker? {messageId channel : UInt8}
    (htaker : list.taker? messageId channel = some request) :
    ∃ holder ∈ list.holders, holder.request = request ∧
      holder.accepts messageId channel = true := by
  rw [taker?] at htaker
  split at htaker
  next => cases htaker
  next =>
    obtain ⟨holder, hfound, rfl⟩ := Option.map_eq_some_iff.mp htaker
    exact ⟨holder, List.mem_of_find?_eq_some hfound, rfl, by simpa using List.find?_some hfound⟩

theorem answeredBy_of_accepts {holder : Holder} {messageId channel : UInt8}
    (haccepts : holder.accepts messageId channel = true) :
    holder.request.AnsweredBy messageId channel := by
  rw [Holder.accepts, Bool.and_eq_true, decide_eq_true_eq] at haccepts
  exact haccepts.1

theorem holds_of_taker? {messageId channel : UInt8}
    (htaker : list.taker? messageId channel = some request) :
    list.Holds request ∧ request.AnsweredBy messageId channel := by
  obtain ⟨holder, hholder, rfl, haccepts⟩ := exists_holder_of_taker? htaker
  exact ⟨List.mem_map_of_mem hholder, answeredBy_of_accepts haccepts⟩

theorem stored_of_taker? (hnodup : (list.holders.map Holder.request).Nodup)
    {messageId channel : UInt8} (htaker : list.taker? messageId channel = some request) :
    list.stored request = none := by
  obtain ⟨holder, hholder, rfl, haccepts⟩ := exists_holder_of_taker? htaker
  rw [Holder.accepts, Bool.and_eq_true, Option.isNone_iff_eq_none] at haccepts
  exact (stored_of_mem hnodup hholder).trans haccepts.2

/-! ## Everything a step can do -/

/-- How a wait on a list can end. -/
inductive Finished (list : WaitingList) (requests : List Request) :
    Outcome × WaitingList → Prop where
  | returned {request : Request} {message : Message} (hwaits : request ∈ requests)
      (hstored : list.stored request = some message) :
      Finished list requests
        (⟨.ended (.ok message), [.returned request message]⟩, list.give request none)
  | gaveUp (error : WaitError) (hnone : ∀ request ∈ requests, list.stored request = none) :
      Finished list requests (⟨.ended (.error error), []⟩, list)

theorem finished_of_finish {requests : List Request} {cancelled expired : Bool}
    {result : Outcome × WaitingList}
    (hfinish : list.finish requests cancelled expired = some result) :
    list.Finished requests result := by
  rw [finish] at hfinish
  split at hfinish
  next request message hfound =>
    cases hfinish
    obtain ⟨other, hother, hstored⟩ := List.exists_of_findSome?_eq_some hfound
    obtain ⟨_, hstored, heq⟩ := Option.map_eq_some_iff.mp hstored
    cases heq
    exact .returned hother hstored
  next hfound =>
    obtain ⟨error, _, rfl⟩ := Option.map_eq_some_iff.mp hfinish
    refine .gaveUp error fun request hrequest => ?_
    simpa using List.findSome?_eq_none_iff.mp hfound request hrequest

/-- How a wait of an event can go. -/
inductive Awaited (list : WaitingList) (event : Event) : Outcome × WaitingList → Prop where
  | panicked (hover : event.overflows = true) : Awaited list event (⟨.panicked, []⟩, list)
  | finished {result : Outcome × WaitingList} (hfits : event.overflows = false)
      (hfinished : list.Finished event.waitsFor result) : Awaited list event result

theorem awaited_of_await {result : Outcome × WaitingList}
    (hawait : list.await event = some result) :
    (∀ request ∈ event.waitsFor, list.Holds request) ∧ list.Awaited event result := by
  rw [await] at hawait
  split at hawait
  next hholds =>
    refine ⟨hholds, ?_⟩
    split at hawait
    next hover =>
      cases hawait
      exact .panicked hover
    next hfits => exact .finished (Bool.eq_false_iff.mpr hfits) (finished_of_finish hawait)
  next => cases hawait

/-- Everything a step can do to a list. -/
inductive Stepped (list : WaitingList) : Event → Outcome × WaitingList → Prop where
  | registered {request : Request} (hnot : ¬ list.Holds request) :
      Stepped list (.register request) (⟨.registered request.messageId, []⟩,
        { list with holders := list.holders ++ [{ request }] })
  | accepted {request : Request} {messageId channel : UInt8} (message : Message)
      (htaker : list.taker? messageId channel = some request) :
      Stepped list (.offer messageId channel message)
        (⟨.offered true, [.accepted request message]⟩, list.give request (some message))
  | refused (messageId channel : UInt8) (message : Message) :
      Stepped list (.offer messageId channel message) (⟨.offered false, []⟩, list)
  | waited {event : Event} {result : Outcome × WaitingList} (hkeeps : event.givesUp = false)
      (hwaits : event.waitsFor ≠ []) (hholds : ∀ request ∈ event.waitsFor, list.Holds request)
      (hawaited : list.Awaited event result) : Stepped list event result
  | consumed {request : Request} {policy : WaitPolicy} {raised : Bool} {now : Nat}
      {outcome : Outcome} {next : WaitingList} (hholds : list.Holds request)
      (hawaited : list.Awaited (.wait request policy raised now) (outcome, next)) :
      Stepped list (.wait request policy raised now)
        (⟨outcome.answer, outcome.moves ++ next.lost request⟩, next.leave request)
  | dropped {request : Request} (hholds : list.Holds request) :
      Stepped list (.drop request) (⟨.quiet, list.lost request⟩, list.leave request)
  | closed : Stepped list .close (⟨.quiet, []⟩, { list with closed := true })

theorem stepped_of_await {result : Outcome × WaitingList} (hkeeps : event.givesUp = false)
    (hwaits : event.waitsFor ≠ []) (hawait : list.await event = some result) :
    list.Stepped event result := by
  obtain ⟨hholds, hawaited⟩ := awaited_of_await hawait
  exact .waited hkeeps hwaits hholds hawaited

theorem stepped {result : Outcome × WaitingList} (hstep : list.step event = some result) :
    list.Stepped event result := by
  cases event with
  | register request =>
      rw [step] at hstep
      split at hstep
      next => cases hstep
      next hnot =>
        cases hstep
        exact .registered hnot
  | offer messageId channel message =>
      rw [step] at hstep
      split at hstep
      next request htaker =>
        cases hstep
        exact .accepted message htaker
      next =>
        cases hstep
        exact .refused messageId channel message
  | look | lookEither | waitEither => exact stepped_of_await rfl (List.cons_ne_nil _ _) hstep
  | wait request policy raised now =>
      obtain ⟨⟨outcome, next⟩, hawait, rfl⟩ := Option.map_eq_some_iff.mp hstep
      obtain ⟨hholds, hawaited⟩ := awaited_of_await hawait
      exact .consumed (hholds request List.mem_cons_self) hawaited
  | drop request =>
      rw [step] at hstep
      split at hstep
      next hholds =>
        cases hstep
        exact .dropped hholds
      next => cases hstep
  | close =>
      cases hstep
      exact .closed

/-- A wait for one request leaves nothing that dropping it could lose. -/
theorem Finished.stored_eq_none (hholds : list.Holds request)
    (hfinished : list.Finished [request] (outcome, next)) : next.stored request = none := by
  cases hfinished with
  | returned hwaits _ =>
      rw [List.mem_singleton.mp hwaits, stored_give hholds, if_pos rfl]
  | gaveUp _ hnone => exact hnone request (List.mem_singleton_self request)

theorem Stepped.proper (hstepped : list.Stepped event (outcome, next)) : Proper event outcome := by
  cases hstepped with
  | registered _ => exact .registered _
  | accepted message htaker => exact .accepted message (holds_of_taker? htaker).2
  | refused => exact .refused _ _ _
  | waited hkeeps hwaits _ hawaited =>
      cases hawaited with
      | panicked hover => exact .panicked hkeeps hover
      | finished hfits hfinished =>
          cases hfinished with
          | returned hrequest _ => exact .returned _ hrequest hfits
          | gaveUp error _ => exact .gaveUp error hwaits hfits
  | @consumed request _ _ _ _ next hholds hawaited =>
      cases hawaited with
      | panicked hover => exact .unwound hover (list.stored request)
      | finished hfits hfinished =>
          rw [lost, hfinished.stored_eq_none hholds]
          cases hfinished with
          | returned hrequest _ => exact .returned _ hrequest hfits
          | gaveUp error _ => exact .gaveUp error (List.cons_ne_nil _ _) hfits
  | dropped _ => exact .dropped _ _
  | closed => exact .closed

/-! ## What a step preserves -/

theorem map_request_leave (request : Request) :
    (list.leave request).holders.map Holder.request =
      (list.holders.map Holder.request).filter fun other => other ≠ request := by
  rw [leave, List.filter_map]
  rfl

theorem nodup_leave (hnodup : (list.holders.map Holder.request).Nodup) (request : Request) :
    ((list.leave request).holders.map Holder.request).Nodup := by
  rw [map_request_leave]
  exact hnodup.filter _

theorem length_leave (hnodup : (list.holders.map Holder.request).Nodup)
    (hholds : list.Holds request) :
    (list.leave request).holders.length + 1 = list.holders.length := by
  have hpos := List.length_pos_of_mem hholds
  have hleave : (list.leave request).holders.map Holder.request =
      (list.holders.map Holder.request).erase request := by
    rw [map_request_leave, hnodup.erase_eq_filter]
    apply List.filter_congr
    intro other _
    rw [Bool.eq_iff_iff, decide_eq_true_eq, bne_iff_ne]
  have hlength := congrArg List.length hleave
  rw [List.length_erase_of_mem hholds] at hlength
  simp only [List.length_map] at hlength hpos
  omega

theorem Finished.map_request {requests : List Request}
    (hfinished : list.Finished requests (outcome, next)) :
    next.holders.map Holder.request = list.holders.map Holder.request := by
  cases hfinished with
  | returned _ _ => exact map_request_give _ _
  | gaveUp _ _ => rfl

theorem Awaited.map_request (hawaited : list.Awaited event (outcome, next)) :
    next.holders.map Holder.request = list.holders.map Holder.request := by
  cases hawaited with
  | panicked => rfl
  | finished _ hfinished => exact hfinished.map_request

theorem Stepped.nodup (hnodup : (list.holders.map Holder.request).Nodup)
    (hstepped : list.Stepped event (outcome, next)) :
    (next.holders.map Holder.request).Nodup := by
  cases hstepped with
  | registered hnot =>
      rw [List.map_append]
      refine hnodup.append (List.nodup_singleton _) ?_
      intro other hother hnew
      rw [List.mem_singleton.mp hnew] at hother
      exact hnot hother
  | accepted message _ => rwa [map_request_give]
  | refused => exact hnodup
  | waited _ _ _ hawaited => rwa [hawaited.map_request]
  | consumed _ hawaited =>
      apply nodup_leave
      rwa [hawaited.map_request]
  | dropped _ => exact nodup_leave hnodup _
  | closed => exact hnodup

/-- A request is live from its registration until it is given up. -/
theorem Stepped.length (hnodup : (list.holders.map Holder.request).Nodup)
    (hstepped : list.Stepped event (outcome, next)) :
    next.holders.length + (if event.givesUp then 1 else 0) =
      list.holders.length + (if event.registers then 1 else 0) := by
  cases hstepped with
  | registered hnot => simp [Event.givesUp, Event.registers]
  | accepted message _ => simp [Event.givesUp, Event.registers, give]
  | refused => rfl
  | waited hkeeps hwaits _ hawaited =>
      have hlength := congrArg List.length hawaited.map_request
      simp only [List.length_map] at hlength
      have hregisters : event.registers = false := by
        cases event <;> first | rfl | exact absurd rfl hwaits
      rw [hkeeps, hregisters, hlength]
  | @consumed last _ _ _ _ waited hholds hawaited =>
      have hsame := hawaited.map_request
      have hlength := congrArg List.length hsame
      have hlive : waited.Holds last := by rwa [Holds, hsame]
      have hleave := length_leave (hsame ▸ hnodup) hlive
      simp only [List.length_map] at hlength
      exact hleave.trans hlength
  | dropped hholds => exact length_leave hnodup hholds
  | closed => rfl

theorem Finished.accounts {requests : List Request}
    (hholds : ∀ request ∈ requests, list.Holds request)
    (hfinished : list.Finished requests (outcome, next)) (request : Request) :
    (list.stored request).toList ++ outcome.moves.filterMap (Move.acceptedFor request) =
      outcome.moves.filterMap (Move.releasedFrom request) ++ (next.stored request).toList := by
  cases hfinished with
  | @returned giver message hwaits hstored =>
      by_cases hsame : request = giver
      · subst hsame
        simp [stored_give (hholds _ hwaits), hstored, Move.acceptedFor, Move.releasedFrom]
      · simp [stored_give (hholds _ hwaits), hsame, Ne.symm hsame, Move.acceptedFor,
          Move.releasedFrom]
  | gaveUp _ _ => simp

theorem Awaited.accounts (hholds : ∀ request ∈ event.waitsFor, list.Holds request)
    (hawaited : list.Awaited event (outcome, next)) (request : Request) :
    (list.stored request).toList ++ outcome.moves.filterMap (Move.acceptedFor request) =
      outcome.moves.filterMap (Move.releasedFrom request) ++ (next.stored request).toList := by
  cases hawaited with
  | panicked => simp
  | finished _ hfinished => exact hfinished.accounts hholds request

/-- Who gives up a request loses what it held. -/
theorem accounts_leave (last request : Request) :
    (list.lost last).filterMap (Move.acceptedFor request) = [] ∧
      (list.stored request).toList =
        (list.lost last).filterMap (Move.releasedFrom request) ++
          ((list.leave last).stored request).toList := by
  rw [lost, stored_leave]
  by_cases hsame : request = last
  · subst hsame
    cases list.stored request <;> simp [Move.acceptedFor, Move.releasedFrom]
  · cases list.stored last <;>
      simp [hsame, Ne.symm hsame, Move.acceptedFor, Move.releasedFrom]

/-- What a request held and is given is what it loses and still holds. -/
theorem Stepped.accounts (hnodup : (list.holders.map Holder.request).Nodup)
    (hstepped : list.Stepped event (outcome, next)) (request : Request) :
    (list.stored request).toList ++ outcome.moves.filterMap (Move.acceptedFor request) =
      outcome.moves.filterMap (Move.releasedFrom request) ++ (next.stored request).toList := by
  cases hstepped with
  | registered hnot => simp [stored_register]
  | @accepted taker messageId channel message htaker =>
      have hholds := (holds_of_taker? htaker).1
      have hstored := stored_of_taker? hnodup htaker
      by_cases hsame : request = taker
      · subst hsame
        simp [stored_give hholds, hstored, Move.acceptedFor, Move.releasedFrom]
      · simp [stored_give hholds, hsame, Ne.symm hsame, Move.acceptedFor, Move.releasedFrom]
  | refused => simp
  | waited _ _ hholds hawaited => exact hawaited.accounts hholds request
  | @consumed last _ _ _ _ waited hholds hawaited =>
      obtain ⟨hnone, hlost⟩ := @accounts_leave waited last request
      have hone := hawaited.accounts (by simpa [Event.waitsFor] using hholds) request
      rw [List.filterMap_append, List.filterMap_append, hnone, List.append_nil, hone, hlost,
        List.append_assoc]
  | @dropped last _ =>
      obtain ⟨hnone, hlost⟩ := @accounts_leave list last request
      rw [hnone, List.append_nil, hlost]
  | closed => simp [stored]

/-! ## Accounts of a run -/

/-- The messages that a run moved, in order. -/
def moves (log : List (Event × Outcome)) : List Move := log.flatMap fun entry => entry.2.moves

/-- A log and the list it leads to: every event moved what it may, the accounts of every request
balance, and the live requests are those registered and not given up. -/
structure Balanced (log : List (Event × Outcome)) (list : WaitingList) : Prop where
  nodup : (list.holders.map Holder.request).Nodup
  proper : ∀ entry ∈ log, Proper entry.1 entry.2
  accounts : ∀ request, (moves log).filterMap (Move.acceptedFor request) =
    (moves log).filterMap (Move.releasedFrom request) ++ (list.stored request).toList
  length : list.holders.length + (log.map Prod.fst).countP Event.givesUp =
    (log.map Prod.fst).countP Event.registers

theorem Balanced.step {log : List (Event × Outcome)} (hbalanced : Balanced log list)
    (hstep : list.step event = some (outcome, next)) :
    Balanced (log ++ [(event, outcome)]) next := by
  have hstepped := stepped hstep
  refine ⟨hstepped.nodup hbalanced.nodup, ?_, fun request => ?_, ?_⟩
  · intro entry hentry
    rcases List.mem_append.mp hentry with hold | hnew
    · exact hbalanced.proper entry hold
    · rw [List.mem_singleton.mp hnew]
      exact hstepped.proper
  · have haccounts := hstepped.accounts hbalanced.nodup request
    simp only [moves, List.flatMap_append, List.flatMap_singleton, List.filterMap_append]
    change (moves log).filterMap _ ++ _ = (moves log).filterMap _ ++ _ ++ _
    rw [hbalanced.accounts, List.append_assoc, haccounts, List.append_assoc]
  · have hlength := hstepped.length hbalanced.nodup
    have hold := hbalanced.length
    simp only [List.map_append, List.map_singleton, List.countP_append, List.countP_singleton]
    omega

theorem Balanced.of_run {events : List Event} {log : List (Event × Outcome)}
    (hrun : run events = some (log, list)) : Balanced log list := by
  have hstart : Balanced [] {} :=
    ⟨List.nodup_nil, fun _ hentry => (List.not_mem_nil hentry).elim, fun _ => rfl, rfl⟩
  exact replay_invariant hstart (fun _ _ _ _ _ hbalanced hstep => hbalanced.step hstep) hrun

end WaitingList

end AntHost
