import AntHost.Proofs.Tracker.Run
import Mathlib.Data.List.Induction
/-!
# Requests do not interfere

A scope is a choice of requests and of the messages meant for them. Where no wait pairs a request in
the scope with one outside and nobody outside can take a message meant for the scope, a run answers
the events of the scope as if nothing else had happened. Message identifiers make such scopes, and
so do pairs of an identifier and a channel.
-/

namespace AntHost

open AntHost.Tracker (Event Answer)

/-- A choice of requests, and of messages by identifier and channel. -/
structure Scope where
  request : Request → Bool
  message : UInt8 → UInt8 → Bool

namespace Scope

/-- Everything about some message identifiers. -/
def ofIds (ids : UInt8 → Bool) : Scope :=
  ⟨fun request => ids request.messageId, fun messageId _ => ids messageId⟩

/-- Everything about one identifier on one channel. -/
def ofKey (messageId channel : UInt8) : Scope where
  request request := request.messageId = messageId ∧ request.channel = some channel
  message otherId other := otherId = messageId ∧ other = channel

/-- Whether an event is about the scope. Closing the tracker is about every scope. -/
def covers (scope : Scope) : Event → Bool
  | .register request | .look request _ _ _ _ | .lookEither request _ _ _ _ _
  | .wait request _ _ _ | .waitEither request _ _ _ _ | .drop request => scope.request request
  | .offer messageId channel _ => scope.message messageId channel
  | .close => true

/-- Whether a request is in the scope just when the messages that answer it are. -/
def Separates (scope : Scope) (request : Request) : Prop :=
  ∀ messageId channel, request.AnsweredBy messageId channel →
    scope.request request = scope.message messageId channel

/-- An event that brings the two sides of a scope together at no time. -/
structure Parts (scope : Scope) (event : Event) : Prop where
  waits : ∀ first ∈ event.waitsFor, ∀ second ∈ event.waitsFor,
    scope.request first = scope.request second
  registers : ∀ request, event = .register request → scope.Separates request

theorem covers_of_waits {scope : Scope} {event : Event} (hparts : scope.Parts event)
    {request : Request} (hrequest : request ∈ event.waitsFor) :
    scope.covers event = scope.request request := by
  cases event with
  | look | wait =>
      rw [List.mem_singleton.mp hrequest]
      rfl
  | lookEither first | waitEither first =>
      exact hparts.waits first (List.mem_cons_self ..) request hrequest
  | register | offer | drop | close => cases hrequest

theorem parts_ofIds {ids : UInt8 → Bool} {event : Event}
    (hwaits : ∀ first ∈ event.waitsFor, ∀ second ∈ event.waitsFor,
      ids first.messageId = ids second.messageId) : (ofIds ids).Parts event where
  waits := hwaits
  registers _ _ _ _ hanswers := congrArg ids hanswers.1

/-- A request that names its channel is on one side of every key. -/
theorem parts_ofKey {messageId : UInt8} {event : Event}
    (hwaits : ∀ first ∈ event.waitsFor, ∀ second ∈ event.waitsFor,
      (first.messageId = messageId ↔ second.messageId = messageId) ∧
        (first.messageId = messageId → first.channel = second.channel))
    (hregisters : ∀ request, event = .register request → request.messageId = messageId →
      request.channel.isSome) (channel : UInt8) : (ofKey messageId channel).Parts event where
  waits first hfirst second hsecond := by
    obtain ⟨hid, hchannel⟩ := hwaits first hfirst second hsecond
    apply decide_eq_decide.mpr
    rw [← hid]
    exact and_congr_right fun hsame => by rw [hchannel hsame]
  registers request hrequest otherId other hanswers := by
    obtain ⟨rfl, hother⟩ := hanswers
    apply decide_eq_decide.mpr
    refine and_congr_right fun hsame => ?_
    rcases hother with hnone | hsome
    · have hnamed := hregisters request hrequest hsame
      rw [hnone] at hnamed
      cases hnamed
    · rw [hsome, Option.some_inj]

end Scope

namespace WaitingList

/-- The part of a list that is in a scope. -/
def only (list : WaitingList) (scope : Scope) : WaitingList :=
  { list with holders := list.holders.filter fun holder => scope.request holder.request }

/-- Every live request is separated from the other side of the scope. -/
def Separated (list : WaitingList) (scope : Scope) : Prop :=
  ∀ request, list.Holds request → scope.Separates request

variable {list next last : WaitingList} {scope : Scope} {event : Event} {outcome : Outcome}
  {request : Request}

theorem holds_only (hscope : scope.request request = true) :
    (list.only scope).Holds request ↔ list.Holds request := by
  simp only [Holds, only, List.mem_map, List.mem_filter]
  constructor
  · rintro ⟨holder, ⟨hholder, _⟩, rfl⟩
    exact ⟨holder, hholder, rfl⟩
  · rintro ⟨holder, hholder, rfl⟩
    exact ⟨holder, ⟨hholder, hscope⟩, rfl⟩

theorem stored_only (hscope : scope.request request = true) :
    (list.only scope).stored request = list.stored request := by
  rw [stored, stored, only, List.find?_filter]
  congr 2
  funext holder
  by_cases hsame : holder.request = request
  · simp [hsame, hscope]
  · simp [hsame]

/-- Nobody outside of the scope can take a message meant for it. -/
theorem taker?_only (hseparated : list.Separated scope) {messageId channel : UInt8}
    (hscope : scope.message messageId channel = true) :
    (list.only scope).taker? messageId channel = list.taker? messageId channel := by
  rw [taker?, taker?, only, List.find?_filter]
  split
  next => rfl
  next =>
    rw [← List.head?_filter, ← List.head?_filter]
    congr 2
    apply List.filter_congr
    intro holder hholder
    cases haccepts : holder.accepts messageId channel with
    | false => simp
    | true =>
        have hinside := hseparated holder.request (List.mem_map_of_mem hholder) messageId channel
          (answeredBy_of_accepts haccepts)
        simp [hinside, hscope]

theorem lost_only (hscope : scope.request request = true) :
    (list.only scope).lost request = list.lost request := by
  rw [lost, lost, stored_only hscope]

theorem only_give (request : Request) (response : Option Message) :
    (list.give request response).only scope = (list.only scope).give request response := by
  simp only [only, give, List.filter_map, Function.comp_def, Holder.request_given]

theorem only_leave (request : Request) :
    (list.leave request).only scope = (list.only scope).leave request := by
  simp only [only, leave, List.filter_filter, Bool.and_comm]

/-- What a request outside of the scope is given or loses is not seen inside. -/
theorem only_give_of_not (houtside : scope.request request = false) (response : Option Message) :
    (list.give request response).only scope = list.only scope := by
  rw [only_give, give, only]
  congr 1
  refine (List.map_congr_left fun holder hholder => ?_).trans (List.map_id _)
  apply Holder.given_of_ne
  intro hsame
  rw [List.mem_filter, hsame, houtside] at hholder
  exact Bool.noConfusion hholder.2

theorem only_leave_of_not (houtside : scope.request request = false) :
    (list.leave request).only scope = list.only scope := by
  rw [only_leave, leave, only]
  congr 1
  rw [List.filter_eq_self]
  intro holder hholder
  rw [decide_eq_true_eq]
  intro hsame
  rw [List.mem_filter, hsame, houtside] at hholder
  exact Bool.noConfusion hholder.2

/-! ## Steps of a part of the list -/

/-- The part of a step's result that is in a scope. -/
def onlyResult (scope : Scope) (result : Outcome × WaitingList) : Outcome × WaitingList :=
  (result.1, result.2.only scope)

theorem finish_only {requests : List Request}
    (hscope : ∀ request ∈ requests, scope.request request = true) (cancelled expired : Bool) :
    (list.only scope).finish requests cancelled expired =
      (list.finish requests cancelled expired).map (onlyResult scope) := by
  have hfirst : requests.findSome? (fun request =>
        ((list.only scope).stored request).map (request, ·)) =
      requests.findSome? fun request => (list.stored request).map (request, ·) := by
    rw [← List.head?_filterMap, ← List.head?_filterMap]
    congr 1
    apply List.filterMap_congr
    intro request hrequest
    rw [stored_only (hscope request hrequest)]
  rw [finish, finish, hfirst]
  cases requests.findSome? fun request => (list.stored request).map (request, ·) with
  | some found =>
      obtain ⟨request, message⟩ := found
      rw [Option.map_some, onlyResult, only_give]
  | none =>
      rw [Option.map_map]
      rfl

theorem await_only (hscope : ∀ request ∈ event.waitsFor, scope.request request = true) :
    (list.only scope).await event = (list.await event).map (onlyResult scope) := by
  have hholds : (∀ request ∈ event.waitsFor, (list.only scope).Holds request) ↔
      ∀ request ∈ event.waitsFor, list.Holds request :=
    forall₂_congr fun request hrequest => holds_only (hscope request hrequest)
  rw [await, await]
  by_cases hlive : ∀ request ∈ event.waitsFor, list.Holds request
  · rw [if_pos hlive, if_pos (hholds.mpr hlive), finish_only hscope]
    split <;> rfl
  · rw [if_neg hlive, if_neg (hholds.not.mpr hlive)]
    rfl

/-- An event about the scope does the same to the part as to the whole list. -/
theorem step_only (hseparated : list.Separated scope) (hparts : scope.Parts event)
    (hcovers : scope.covers event = true) :
    (list.only scope).step event = (list.step event).map (onlyResult scope) := by
  have hwaits : ∀ request ∈ event.waitsFor, scope.request request = true :=
    fun request hrequest => (Scope.covers_of_waits hparts hrequest).symm.trans hcovers
  cases event with
  | register request =>
      rw [step, step]
      by_cases hholds : list.Holds request
      · rw [if_pos hholds, if_pos ((holds_only hcovers).mpr hholds)]
        rfl
      · rw [if_neg hholds, if_neg ((holds_only hcovers).not.mpr hholds), Option.map_some,
          onlyResult, only, only, List.filter_append, List.filter_singleton]
        change scope.request request = true at hcovers
        rw [hcovers]
        rfl
  | offer messageId channel message =>
      rw [step, step, taker?_only hseparated hcovers]
      cases list.taker? messageId channel with
      | none => rfl
      | some request =>
          rw [Option.map_some, onlyResult, only_give]
  | look | lookEither | waitEither => exact await_only hwaits
  | wait request policy raised now =>
      rw [step, step, await_only hwaits, Option.map_map, Option.map_map]
      apply Option.map_congr
      intro result _
      simp only [Function.comp_apply, onlyResult, only_leave]
      rw [lost_only (by exact hcovers)]
  | drop request =>
      rw [step, step, lost_only hcovers]
      by_cases hholds : list.Holds request
      · rw [if_pos hholds, if_pos ((holds_only hcovers).mpr hholds), Option.map_some, onlyResult,
          only_leave]
      · rw [if_neg hholds, if_neg ((holds_only hcovers).not.mpr hholds)]
        rfl
  | close => rfl

theorem Finished.only_eq {requests : List Request}
    (houtside : ∀ request ∈ requests, scope.request request = false)
    (hfinished : list.Finished requests (outcome, next)) : next.only scope = list.only scope := by
  cases hfinished with
  | returned hrequest _ => exact only_give_of_not (houtside _ hrequest) none
  | gaveUp _ _ => rfl

theorem Awaited.only_eq (houtside : ∀ request ∈ event.waitsFor, scope.request request = false)
    (hawaited : list.Awaited event (outcome, next)) : next.only scope = list.only scope := by
  cases hawaited with
  | panicked => rfl
  | finished _ hfinished => exact hfinished.only_eq houtside

/-- An event that is not about the scope leaves its part of the list alone. -/
theorem only_of_step (hseparated : list.Separated scope) (hparts : scope.Parts event)
    (hcovers : scope.covers event = false) (hstep : list.step event = some (outcome, next)) :
    next.only scope = list.only scope := by
  have hwaits : ∀ request ∈ event.waitsFor, scope.request request = false :=
    fun request hrequest => (Scope.covers_of_waits hparts hrequest).symm.trans hcovers
  cases stepped hstep with
  | @registered request _ =>
      change scope.request request = false at hcovers
      rw [only, only, List.filter_append, List.filter_singleton, hcovers]
      simp
  | @accepted request messageId channel message htaker =>
      obtain ⟨hholds, hanswers⟩ := holds_of_taker? htaker
      exact only_give_of_not ((hseparated request hholds _ _ hanswers).trans hcovers) _
  | refused => rfl
  | waited _ _ _ hawaited => exact hawaited.only_eq hwaits
  | consumed _ hawaited =>
      rw [only_leave_of_not hcovers]
      exact hawaited.only_eq hwaits
  | dropped _ => exact only_leave_of_not hcovers
  | closed => cases hcovers

/-- A request that is live after a step was live before it, or has just been registered. -/
theorem Stepped.holds (hstepped : list.Stepped event (outcome, next))
    (hholds : next.Holds request) : list.Holds request ∨ event = .register request := by
  cases hstepped with
  | @registered new _ =>
      rw [Holds, List.map_append, List.mem_append] at hholds
      rcases hholds with hold | hnew
      · exact .inl hold
      · rw [List.mem_singleton.mp hnew]
        exact .inr rfl
  | accepted =>
      rw [Holds, map_request_give] at hholds
      exact .inl hholds
  | refused => exact .inl hholds
  | waited _ _ _ hawaited =>
      rw [Holds, hawaited.map_request] at hholds
      exact .inl hholds
  | consumed _ hawaited =>
      rw [Holds, map_request_leave, hawaited.map_request] at hholds
      exact .inl (List.mem_of_mem_filter hholds)
  | dropped _ =>
      rw [Holds, map_request_leave] at hholds
      exact .inl (List.mem_of_mem_filter hholds)
  | closed => exact .inl hholds

theorem Separated.step (hseparated : list.Separated scope) (hparts : scope.Parts event)
    (hstep : list.step event = some (outcome, next)) : next.Separated scope := by
  intro request hholds
  rcases (stepped hstep).holds hholds with hold | hnew
  · exact hseparated request hold
  · exact hparts.registers request hnew

/-! ## Runs of a part of the list -/

theorem replay_only (hseparated : list.Separated scope) {events : List Event}
    (hparts : ∀ event ∈ events, scope.Parts event) {log : List (Event × Outcome)}
    (hrun : replay step list events = some (log, last)) :
    replay step (list.only scope) (events.filter scope.covers) =
        some (log.filter fun entry => scope.covers entry.1, last.only scope) ∧
      last.Separated scope := by
  induction events generalizing list log with
  | nil =>
      cases hrun
      exact ⟨rfl, hseparated⟩
  | cons event rest ih =>
      obtain ⟨outcome, next, later, hstep, hrest, rfl⟩ := replay_cons_eq_some.mp hrun
      have hevent := hparts event (List.mem_cons_self ..)
      obtain ⟨hlater, hlast⟩ := ih (hseparated.step hevent hstep)
        (fun other hother => hparts other (List.mem_cons_of_mem _ hother)) hrest
      refine ⟨?_, hlast⟩
      cases hcovers : scope.covers event with
      | true =>
          rw [List.filter_cons_of_pos hcovers, List.filter_cons_of_pos (by exact hcovers),
            replay_cons_eq_some]
          refine ⟨outcome, next.only scope, _, ?_, hlater, rfl⟩
          rw [step_only hseparated hevent hcovers, hstep]
          rfl
      | false =>
          rw [List.filter_cons_of_neg (by simp [hcovers]),
            List.filter_cons_of_neg (by simp [hcovers]),
            ← only_of_step hseparated hevent hcovers hstep]
          exact hlater

/-- A run leaves out what is not about a scope, and the scope does not notice. -/
theorem run_only {events : List Event} (hparts : ∀ event ∈ events, scope.Parts event)
    {log : List (Event × Outcome)} (hrun : run events = some (log, last)) :
    run (events.filter scope.covers) =
        some (log.filter fun entry => scope.covers entry.1, last.only scope) ∧
      last.Separated scope :=
  replay_only (fun _ hholds => absurd hholds List.not_mem_nil) hparts hrun

/-- A run is possible if each of its events is about a scope whose part of the run is. -/
theorem run_isSome_of_scopes (scopes : List Scope) {events : List Event}
    (hparts : ∀ scope ∈ scopes, ∀ event ∈ events, scope.Parts event)
    (hcovered : ∀ event ∈ events, ∃ scope ∈ scopes, scope.covers event = true)
    (hruns : ∀ scope ∈ scopes, (run (events.filter scope.covers)).isSome) :
    (run events).isSome := by
  induction events using List.reverseRecOn with
  | nil => rfl
  | append_singleton earlier event ih =>
      have hbefore : (run earlier).isSome := by
        refine ih (fun scope hscope other hother => ?_) (fun other hother => ?_)
          fun scope hscope => ?_
        · exact hparts scope hscope other (List.mem_append_left _ hother)
        · exact hcovered other (List.mem_append_left _ hother)
        · have hboth := hruns scope hscope
          rw [List.filter_append, run, replay_append] at hboth
          exact Option.isSome_of_isSome_bind hboth
      obtain ⟨⟨log, list⟩, hrun⟩ := Option.isSome_iff_exists.mp hbefore
      obtain ⟨scope, hscope, hcovers⟩ := hcovered event List.mem_concat_self
      have hall := hparts scope hscope
      obtain ⟨hpart, hseparated⟩ := run_only
        (fun other hother => hall other (List.mem_append_left _ hother)) hrun
      have hone := hruns scope hscope
      rw [List.filter_append, List.filter_singleton, hcovers, cond_true, run, replay_concat,
        ← run, hpart, Option.bind_some, Option.isSome_map,
        step_only hseparated (hall event List.mem_concat_self) hcovers, Option.isSome_map] at hone
      rw [run, replay_concat, ← run, hrun, Option.bind_some, Option.isSome_map]
      exact hone

end WaitingList

/-! ## Exchanges with different keys -/

/-- A request that names its channel, the response meant for it and how its caller waits. -/
structure Exchange where
  messageId : UInt8
  channel : UInt8
  number : Nat
  response : Message
  policy : WaitPolicy
  raised : Bool
  /-- When a wait starts that begins after the response is there. -/
  start : Nat
  /-- Deadline and time of the last look, for a wait that begins before the response is there. -/
  lastLook : Option (Option Nat × Nat)

namespace Exchange

variable {exchange other : Exchange} {exchanges : List Exchange} {event : Event}

def key (exchange : Exchange) : UInt8 × UInt8 := (exchange.messageId, exchange.channel)

def request (exchange : Exchange) : Request :=
  ⟨exchange.messageId, some exchange.channel, exchange.number⟩

def scope (exchange : Exchange) : Scope := .ofKey exchange.messageId exchange.channel

/-- The event that ends the wait. -/
def wait (exchange : Exchange) : Event :=
  match exchange.lastLook with
  | none => .wait exchange.request exchange.policy exchange.raised exchange.start
  | some (deadline, now) => .look exchange.request exchange.policy exchange.raised deadline now

/-- What the wait answers: the response, unless it panics. -/
def answer (exchange : Exchange) : Answer :=
  if exchange.wait.overflows then .panicked else .ended (.ok exchange.response)

/-- All that happens to the request: it is registered, answered and waited for. -/
def steps (exchange : Exchange) : List Event :=
  [.register exchange.request, .offer exchange.messageId exchange.channel exchange.response,
    exchange.wait] ++ if exchange.wait.givesUp then [] else [.drop exchange.request]

theorem mem_steps (hevent : event ∈ exchange.steps) :
    event = .register exchange.request ∨
      event = .offer exchange.messageId exchange.channel exchange.response ∨
      event = exchange.wait ∨ event = .drop exchange.request := by
  rw [steps, List.mem_append] at hevent
  rcases hevent with hfirst | hdrop
  · simp only [List.mem_cons, List.not_mem_nil, or_false] at hfirst
    exact hfirst.imp_right (Or.imp_right .inl)
  · split at hdrop
    · cases hdrop
    · exact .inr (.inr (.inr (List.mem_singleton.mp hdrop)))

theorem waitsFor_of_mem_steps (hevent : event ∈ exchange.steps) :
    event.waitsFor = [] ∨ event.waitsFor = [exchange.request] := by
  rcases mem_steps hevent with rfl | rfl | rfl | rfl
  · exact .inl rfl
  · exact .inl rfl
  · rw [wait]
    split
    · exact .inr rfl
    · exact .inr rfl
  · exact .inl rfl

theorem covers_of_mem_steps (hevent : event ∈ other.steps) :
    exchange.scope.covers event = decide (other.key = exchange.key) := by
  rcases mem_steps hevent with rfl | rfl | rfl | rfl
  · simp [scope, Scope.covers, Scope.ofKey, request, key]
  · simp [scope, Scope.covers, Scope.ofKey, key]
  · rw [wait]
    split <;> simp [scope, Scope.covers, Scope.ofKey, request, key]
  · simp [scope, Scope.covers, Scope.ofKey, request, key]

theorem parts_of_mem_steps (hevent : event ∈ other.steps) : exchange.scope.Parts event := by
  apply Scope.parts_ofKey
  · intro first hfirst second hsecond
    rcases waitsFor_of_mem_steps hevent with hnone | hone
    · rw [hnone] at hfirst
      cases hfirst
    · rw [hone, List.mem_singleton] at hfirst hsecond
      simp [hfirst, hsecond]
  · rintro request rfl _
    rcases mem_steps hevent with heq | heq | heq | heq
    · cases heq
      rfl
    · cases heq
    · rw [wait] at heq
      split at heq <;> cases heq
    · cases heq

theorem filter_steps (exchange : Exchange) :
    exchange.steps.filter exchange.scope.covers = exchange.steps := by
  rw [List.filter_eq_self]
  intro event hevent
  rw [covers_of_mem_steps hevent, decide_eq_true_eq]

/-- Among exchanges with different keys, an exchange is all there is about its key. -/
theorem filter_flatMap_steps (hnodup : (exchanges.map key).Nodup) (hmem : exchange ∈ exchanges) :
    (exchanges.flatMap steps).filter exchange.scope.covers = exchange.steps := by
  induction exchanges with
  | nil => cases hmem
  | cons first rest ih =>
      rw [List.map_cons, List.nodup_cons] at hnodup
      rw [List.flatMap_cons, List.filter_append]
      rcases List.mem_cons.mp hmem with rfl | hrest
      · have hnone : (rest.flatMap steps).filter exchange.scope.covers = [] := by
          rw [List.filter_eq_nil_iff]
          intro event hevent
          obtain ⟨other, hother, hevent⟩ := List.mem_flatMap.mp hevent
          rw [covers_of_mem_steps hevent, decide_eq_true_eq]
          intro hsame
          exact hnodup.1 (hsame ▸ List.mem_map_of_mem hother)
        rw [filter_steps, hnone, List.append_nil]
      · have hnone : first.steps.filter exchange.scope.covers = [] := by
          rw [List.filter_eq_nil_iff]
          intro event hevent
          rw [covers_of_mem_steps hevent, decide_eq_true_eq]
          intro hsame
          exact hnodup.1 (hsame ▸ List.mem_map_of_mem hrest)
        rw [hnone, List.nil_append, ih hnodup.2 hrest]

theorem filter_of_perm (hnodup : (exchanges.map key).Nodup) (hmem : exchange ∈ exchanges)
    {events : List Event} (hperm : events.Perm (exchanges.flatMap steps))
    (horder : exchange.steps.Sublist events) :
    events.filter exchange.scope.covers = exchange.steps := by
  have hfiltered := hperm.filter exchange.scope.covers
  rw [filter_flatMap_steps hnodup hmem] at hfiltered
  have hsublist := horder.filter exchange.scope.covers
  rw [filter_steps] at hsublist
  exact (hsublist.eq_of_length hfiltered.length_eq.symm).symm

/-- Alone at a tracker, an exchange takes place and its wait returns its response, unless it
panics. -/
theorem run_steps (exchange : Exchange) :
    ∃ log list outcome, WaitingList.run exchange.steps = some (log, list) ∧
      (exchange.wait, outcome) ∈ log ∧ outcome.answer = exchange.answer := by
  -- Once it is answered, the request holds its response, and either kind of wait finds it there.
  cases hlast : exchange.lastLook <;> cases hover : exchange.wait.overflows <;>
    simp only [wait, hlast, request] at hover <;>
    simp [steps, wait, hlast, hover, answer, request, WaitingList.run, replay, WaitingList.step,
      WaitingList.Holds, WaitingList.taker?, Holder.accepts, Request.AnsweredBy, WaitingList.give,
      Holder.given, WaitingList.await, WaitingList.finish, WaitingList.stored, Event.givesUp,
      Event.waitsFor]

/-- Exchanges with different keys take place in any order, each as if it were alone. -/
theorem run_exchanges (hnodup : (exchanges.map key).Nodup) {events : List Event}
    (hperm : events.Perm (exchanges.flatMap steps))
    (horder : ∀ exchange ∈ exchanges, exchange.steps.Sublist events) :
    ∃ log list, WaitingList.run events = some (log, list) ∧
      ∀ exchange ∈ exchanges, ∃ outcome, (exchange.wait, outcome) ∈ log ∧
        outcome.answer = exchange.answer := by
  have hparts : ∀ exchange : Exchange, ∀ event ∈ events, exchange.scope.Parts event := by
    intro exchange event hevent
    obtain ⟨other, _, hmem⟩ := List.mem_flatMap.mp (hperm.mem_iff.mp hevent)
    exact parts_of_mem_steps hmem
  have hfilter : ∀ exchange ∈ exchanges,
      events.filter exchange.scope.covers = exchange.steps :=
    fun exchange hmem => filter_of_perm hnodup hmem hperm (horder exchange hmem)
  have hsome : (WaitingList.run events).isSome := by
    refine WaitingList.run_isSome_of_scopes (exchanges.map scope) ?_ ?_ ?_
    · intro _ hscope
      obtain ⟨exchange, _, rfl⟩ := List.mem_map.mp hscope
      exact hparts exchange
    · intro event hevent
      obtain ⟨exchange, hexchange, hmem⟩ := List.mem_flatMap.mp (hperm.mem_iff.mp hevent)
      refine ⟨exchange.scope, List.mem_map_of_mem hexchange, ?_⟩
      rw [covers_of_mem_steps hmem, decide_eq_true_eq]
    · intro _ hscope
      obtain ⟨exchange, hexchange, rfl⟩ := List.mem_map.mp hscope
      obtain ⟨log, list, _, hrun, _⟩ := exchange.run_steps
      rw [hfilter exchange hexchange, hrun]
      rfl
  obtain ⟨⟨log, list⟩, hrun⟩ := Option.isSome_iff_exists.mp hsome
  refine ⟨log, list, hrun, fun exchange hexchange => ?_⟩
  obtain ⟨_, _, outcome, halone, hmem, hanswer⟩ := exchange.run_steps
  have hpart := (WaitingList.run_only (hparts exchange) hrun).1
  rw [hfilter exchange hexchange, halone] at hpart
  cases hpart
  exact ⟨outcome, (List.mem_filter.mp hmem).1, hanswer⟩

end Exchange

namespace TicketDesk

/-- Whether the answers of a run to the events of a scope are those of the run without the other
events. -/
def Isolates (scope : Scope) (events : List Event) : Prop :=
  ∀ log desk, run events = some (log, desk) → ∃ last,
    run (events.filter scope.covers) = some (log.filter fun entry => scope.covers entry.1, last)

theorem isolates_of_parts {scope : Scope} {events : List Event}
    (hfew : events.countP Event.registers < UInt64.size)
    (hparts : ∀ event ∈ events, scope.Parts event) : Isolates scope events := by
  intro log desk hrun
  have hwhole := run_rel events hfew
  rw [hrun] at hwhole
  generalize hflat : WaitingList.run events = flat at hwhole
  cases hwhole with
  | @some _ flat hsame =>
      obtain ⟨outcomes, list⟩ := flat
      obtain ⟨rfl, _⟩ := hsame
      have hpart := run_rel (events.filter scope.covers)
        (Nat.lt_of_le_of_lt (List.filter_sublist.countP_le ..) hfew)
      rw [(WaitingList.run_only hparts hflat).1] at hpart
      generalize run (events.filter scope.covers) = alone at hpart ⊢
      cases hpart with
      | @some alone _ hsame =>
          obtain ⟨answers, last⟩ := alone
          obtain ⟨rfl, _⟩ := hsame
          refine ⟨last, ?_⟩
          rw [List.filter_map]
          rfl

/-- Requests do not interfere. What a run answers about some message identifiers does not depend on
what happens about the others, as long as no wait is for both kinds; and so for one identifier on
one channel, if all requests of this identifier name a channel and are waited for with their own
kind only. So exchanges with different keys get their own responses in whatever order all happens,
but for those that wait with a deadline that the clock cannot hold. -/
theorem run_isolated (events : List Event) (hfew : events.countP Event.registers < UInt64.size) :
    (∀ ids : UInt8 → Bool,
        (∀ event ∈ events, ∀ first ∈ event.waitsFor, ∀ second ∈ event.waitsFor,
          ids first.messageId = ids second.messageId) →
        Isolates (.ofIds ids) events) ∧
      (∀ messageId : UInt8,
        (∀ event ∈ events, ∀ first ∈ event.waitsFor, ∀ second ∈ event.waitsFor,
          (first.messageId = messageId ↔ second.messageId = messageId) ∧
            (first.messageId = messageId → first.channel = second.channel)) →
        (∀ request, .register request ∈ events → request.messageId = messageId →
          request.channel.isSome) →
        ∀ channel, Isolates (.ofKey messageId channel) events) ∧
      ∀ exchanges : List Exchange, (exchanges.map Exchange.key).Nodup →
        events.Perm (exchanges.flatMap Exchange.steps) →
        (∀ exchange ∈ exchanges, exchange.steps.Sublist events) →
        ∃ log desk, run events = some (log, desk) ∧
          ∀ exchange ∈ exchanges, (exchange.wait, exchange.answer) ∈ log := by
  refine ⟨fun ids hwaits => ?_, fun messageId hwaits hregisters channel => ?_,
    fun exchanges hnodup hperm horder => ?_⟩
  · exact isolates_of_parts hfew fun event hevent => Scope.parts_ofIds (hwaits event hevent)
  · refine isolates_of_parts hfew fun event hevent => ?_
    apply Scope.parts_ofKey (hwaits event hevent)
    rintro request rfl
    exact hregisters request hevent
  · obtain ⟨outcomes, list, hflat, hresponses⟩ := Exchange.run_exchanges hnodup hperm horder
    have hrel := run_rel events hfew
    rw [hflat] at hrel
    generalize run events = result at hrel ⊢
    cases hrel with
    | @some result _ hsame =>
        obtain ⟨log, desk⟩ := result
        obtain ⟨rfl, _⟩ := hsame
        refine ⟨_, desk, rfl, fun exchange hexchange => ?_⟩
        obtain ⟨outcome, hmem, hanswer⟩ := hresponses exchange hexchange
        rw [← hanswer]
        exact List.mem_map_of_mem hmem

/-- Two requests for one identifier on different channels, answered in the other order. -/
theorem run_isolated_of_crossing :
    (∃ log desk,
        run [.register ⟨0x54, some 0, 0⟩, .register ⟨0x54, some 1, 0⟩,
            .offer 0x54 1 ⟨0x54, [1, 8], by decide⟩,
            .look ⟨0x54, some 1, 0⟩ ⟨5, true, 1⟩ true (some 5) 9, .drop ⟨0x54, some 1, 0⟩,
            .offer 0x54 0 ⟨0x54, [0, 7], by decide⟩,
            .wait ⟨0x54, some 0, 0⟩ ⟨0, false, 1⟩ false 3] = some (log, desk) ∧
          (.look ⟨0x54, some 1, 0⟩ ⟨5, true, 1⟩ true (some 5) 9,
            .ended (.ok ⟨0x54, [1, 8], by decide⟩)) ∈ log ∧
          (.wait ⟨0x54, some 0, 0⟩ ⟨0, false, 1⟩ false 3,
            .ended (.ok ⟨0x54, [0, 7], by decide⟩)) ∈ log) ∧
      ∃ desk,
        run [.register ⟨0x54, some 0, 0⟩, .offer 0x54 0 ⟨0x54, [0, 7], by decide⟩,
            .wait ⟨0x54, some 0, 0⟩ ⟨0, false, 1⟩ false 3] =
          some ([(.register ⟨0x54, some 0, 0⟩, .registered 0x54),
            (.offer 0x54 0 ⟨0x54, [0, 7], by decide⟩, .offered true),
            (.wait ⟨0x54, some 0, 0⟩ ⟨0, false, 1⟩ false 3,
              .ended (.ok ⟨0x54, [0, 7], by decide⟩))], desk) := by
  obtain ⟨-, hkeys, hexchanges⟩ := run_isolated
    [.register ⟨0x54, some 0, 0⟩, .register ⟨0x54, some 1, 0⟩,
      .offer 0x54 1 ⟨0x54, [1, 8], by decide⟩,
      .look ⟨0x54, some 1, 0⟩ ⟨5, true, 1⟩ true (some 5) 9, .drop ⟨0x54, some 1, 0⟩,
      .offer 0x54 0 ⟨0x54, [0, 7], by decide⟩,
      .wait ⟨0x54, some 0, 0⟩ ⟨0, false, 1⟩ false 3] (by decide)
  refine ⟨?_, hkeys 0x54 (by decide) ?_ 0 _ _ rfl⟩
  · obtain ⟨log, desk, hrun, hmem⟩ := hexchanges
      [⟨0x54, 0, 0, ⟨0x54, [0, 7], by decide⟩, ⟨0, false, 1⟩, false, 3, none⟩,
        ⟨0x54, 1, 0, ⟨0x54, [1, 8], by decide⟩, ⟨5, true, 1⟩, true, 0, some (some 5, 9)⟩]
      (by decide) (by decide) (by decide)
    exact ⟨log, desk, hrun, hmem _ (.tail _ (.head _)), hmem _ (.head _)⟩
  · intro request hrequest _
    simp only [List.mem_cons, List.not_mem_nil, reduceCtorEq, Event.register.injEq,
      or_false] at hrequest
    rcases hrequest with rfl | rfl <;> rfl

end TicketDesk

end AntHost
