import AntHost.Proofs.Tracker.Desk
import Mathlib.Data.List.Nodup
/-!
# One flat list of waiters

What callers may expect of a tracker: the live requests in the order of their registration, and
whether the tracker is closed. Every step notes whose message it moves, and a run keeps accounts:
what a request was given is what it returned, what was dropped with it, and what it still holds.
-/

namespace AntHost

theorem find?_of_nodup_map {α κ : Type} [DecidableEq κ] {key : α → κ} {entries : List α}
    {entry : α} (hnodup : (entries.map key).Nodup) (hentry : entry ∈ entries) :
    entries.find? (fun other => key other = key entry) = some entry := by
  cases hfound : entries.find? fun other => key other = key entry with
  | none => exact absurd (List.find?_eq_none.mp hfound entry hentry) (by simp)
  | some other =>
      have hsame : key other = key entry := by simpa using List.find?_some hfound
      rw [List.inj_on_of_nodup_map hnodup (List.mem_of_find?_eq_some hfound) hentry hsame]

/-- A live request and the response it has been given. -/
structure Holder where
  request : Request
  response : Option Message := none
deriving DecidableEq, Repr

/-- Whether a holder is still without a response and wants messages of this kind. -/
def Holder.accepts (holder : Holder) (messageId channel : UInt8) : Bool :=
  decide (holder.request.AnsweredBy messageId channel) && holder.response.isNone

/-- The holder after a request was given a response, or has lost it. -/
def Holder.given (request : Request) (response : Option Message) (holder : Holder) : Holder :=
  if holder.request = request then { holder with response } else holder

theorem Holder.request_given (request : Request) (response : Option Message) (holder : Holder) :
    (holder.given request response).request = holder.request := by
  unfold given
  split <;> rfl

theorem Holder.given_of_ne {holder : Holder} {request : Request} {response : Option Message}
    (hne : holder.request ≠ request) : holder.given request response = holder :=
  if_neg hne

/-- What becomes of a message. -/
inductive Move where
  | accepted (request : Request) (message : Message)
  | returned (request : Request) (message : Message)
  /-- Lost together with the handle it was accepted for. -/
  | discarded (request : Request) (message : Message)
deriving DecidableEq, Repr

/-- What a step tells its caller, and the messages it moves. -/
structure Outcome where
  answer : Tracker.Answer
  moves : List Move := []

/-- The live requests of a tracker in the order of registration. -/
structure WaitingList where
  holders : List Holder := []
  closed : Bool := false
deriving DecidableEq, Repr

namespace WaitingList

open AntHost.Tracker (Event Answer)

def Holds (list : WaitingList) (request : Request) : Prop :=
  request ∈ list.holders.map Holder.request

instance (list : WaitingList) (request : Request) : Decidable (list.Holds request) :=
  inferInstanceAs (Decidable (_ ∈ _))

/-- The response a request holds. -/
def stored (list : WaitingList) (request : Request) : Option Message :=
  (list.holders.find? fun holder => holder.request = request).bind Holder.response

def give (list : WaitingList) (request : Request) (response : Option Message) : WaitingList :=
  { list with holders := list.holders.map (Holder.given request response) }

def leave (list : WaitingList) (request : Request) : WaitingList :=
  { list with holders := list.holders.filter fun holder => holder.request ≠ request }

/-- Who is given a message: the earliest request that expects it and has no response yet. -/
def taker? (list : WaitingList) (messageId channel : UInt8) : Option Request :=
  if list.closed then none
  else (list.holders.find? fun holder => holder.accepts messageId channel).map Holder.request

/-- Why a wait without a response ends. -/
def givesUp (list : WaitingList) (cancelled expired : Bool) : Option WaitError :=
  if list.closed then some .closed
  else if cancelled then some .cancelled
  else if expired then some .timeout
  else none

/-- How a wait ends: with the first response there is among its requests, else with a reason to give
up. -/
def finish (list : WaitingList) (requests : List Request) (cancelled expired : Bool) :
    Option (Outcome × WaitingList) :=
  match requests.findSome? fun request => (list.stored request).map (request, ·) with
  | some (request, message) =>
      some (⟨.ended (.ok message), [.returned request message]⟩, list.give request none)
  | none => (list.givesUp cancelled expired).map fun error => (⟨.ended (.error error), []⟩, list)

/-- A wait for the requests of an event, if they are live. It panics if it cannot have its
deadline. -/
def await (list : WaitingList) (event : Event) : Option (Outcome × WaitingList) :=
  if ∀ request ∈ event.waitsFor, list.Holds request then
    if event.overflows then some (⟨.panicked, []⟩, list)
    else list.finish event.waitsFor event.cancelled event.expired
  else none

theorem await_one {list : WaitingList} {event : Event} {request : Request}
    (hwaits : event.waitsFor = [request]) :
    list.await event =
      if list.Holds request then
        if event.overflows then some (⟨.panicked, []⟩, list)
        else list.finish [request] event.cancelled event.expired
      else none := by
  rw [await, hwaits]
  simp only [List.forall_mem_singleton]

theorem await_two {list : WaitingList} {event : Event} {first second : Request}
    (hwaits : event.waitsFor = [first, second]) :
    list.await event =
      if list.Holds first ∧ list.Holds second then
        if event.overflows then some (⟨.panicked, []⟩, list)
        else list.finish [first, second] event.cancelled event.expired
      else none := by
  rw [await, hwaits]
  simp

/-- The response that is lost if a request is given up. -/
def lost (list : WaitingList) (request : Request) : List Move :=
  ((list.stored request).map (Move.discarded request)).toList

/-- What an event answers and leaves; nothing if its request is not live or its wait goes on. -/
def step (list : WaitingList) : Event → Option (Outcome × WaitingList)
  | .register request =>
      if list.Holds request then none
      else some (⟨.registered request.messageId, []⟩,
        { list with holders := list.holders ++ [{ request }] })
  | .offer messageId channel message =>
      match list.taker? messageId channel with
      | some request =>
          some (⟨.offered true, [.accepted request message]⟩, list.give request (some message))
      | none => some (⟨.offered false, []⟩, list)
  | .wait request policy raised now =>
      (list.await (.wait request policy raised now)).map fun (outcome, next) =>
        (⟨outcome.answer, outcome.moves ++ next.lost request⟩, next.leave request)
  | .drop request =>
      if list.Holds request then some (⟨.quiet, list.lost request⟩, list.leave request) else none
  | .close => some (⟨.quiet, []⟩, { list with closed := true })
  | event => list.await event

def run (events : List Event) : Option (List (Event × Outcome) × WaitingList) :=
  replay step {} events

end WaitingList

end AntHost
