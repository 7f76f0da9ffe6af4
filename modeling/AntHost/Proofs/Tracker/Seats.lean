import AntHost.Proofs.Tracker.Offer
import AntHost.Proofs.Tracker.WaitingList
/-!
# A tracker is a flat list of waiters

A tracker keeps its waiters per identifier under tokens of its own. `Seated` lays them out as one
list in the order of registration; every operation of the tracker is the same operation on that
list, so a run of a tracker answers what a run of the flat list does.
-/

namespace AntHost

/-- A live request with the token it was given. -/
structure Seat where
  holder : Holder
  token : UInt64
deriving DecidableEq

namespace Seat

def request (seat : Seat) : Request := seat.holder.request

def ticket (seat : Seat) : Ticket := ⟨seat.request.messageId, seat.token⟩

def waiter (seat : Seat) : Waiter :=
  ⟨seat.token, seat.request.channel, seat.holder.response⟩

def given (request : Request) (response : Option Message) (seat : Seat) : Seat :=
  { seat with holder := seat.holder.given request response }

/-- The seats of one identifier as its waiters. -/
def waiters (messageId : UInt8) (seats : List Seat) : List Waiter :=
  (seats.filter fun seat => seat.request.messageId = messageId).map waiter

variable {seat : Seat} {seats : List Seat} {messageId channel : UInt8} {request : Request}
  {response : Option Message}

theorem request_given : (seat.given request response).request = seat.request :=
  Holder.request_given ..

theorem given_of_ne (hne : seat.request ≠ request) : seat.given request response = seat := by
  rw [given, Holder.given_of_ne hne]

theorem map_request_given :
    (seats.map (Seat.given request response)).map Seat.request = seats.map Seat.request := by
  rw [List.map_map]
  exact List.map_congr_left fun _ _ => request_given

theorem map_token_given :
    (seats.map (Seat.given request response)).map Seat.token = seats.map Seat.token := by
  rw [List.map_map]
  rfl

theorem given_self :
    (seat.given seat.request response).waiter = { seat.waiter with response } := by
  simp [given, Holder.given, waiter, request]

theorem map_given_of_notMem (hnot : request ∉ seats.map Seat.request) :
    seats.map (Seat.given request response) = seats := by
  refine (List.map_congr_left fun seat hseat => ?_).trans (List.map_id seats)
  exact given_of_ne fun heq => hnot (heq ▸ List.mem_map_of_mem hseat)

theorem waiters_cons :
    waiters messageId (seat :: seats) =
      if seat.request.messageId = messageId then seat.waiter :: waiters messageId seats
      else waiters messageId seats := by
  unfold waiters
  rw [List.filter_cons]
  simp only [decide_eq_true_eq]
  split <;> rfl

theorem length_waiters :
    (waiters messageId seats).length =
      (seats.map Seat.request).countP fun request => request.messageId = messageId := by
  rw [waiters, List.length_map, List.countP_map, List.countP_eq_length_filter]
  rfl

theorem accepts_iff_waiter (hid : seat.request.messageId = messageId) :
    seat.holder.accepts messageId channel = seat.waiter.accepts channel := by
  rw [Bool.eq_iff_iff, Waiter.accepts_iff, Holder.accepts, Bool.and_eq_true, decide_eq_true_eq,
    Option.isNone_iff_eq_none, and_comm]
  exact and_congr_right fun _ => and_iff_right hid

/-- The first waiter that accepts a message sits on the first seat that does. -/
theorem answerFirst_waiters (hnodup : (seats.map Seat.request).Nodup) (message : Message) :
    answerFirst channel message (waiters messageId seats) =
      (seats.find? fun seat => seat.holder.accepts messageId channel).map fun seat =>
        waiters messageId (seats.map (Seat.given seat.request (some message))) := by
  induction seats with
  | nil => rfl
  | cons seat rest ih =>
      obtain ⟨hnot, hrest⟩ := List.nodup_cons.mp hnodup
      have hlater : ∀ found, rest.find? (fun seat => seat.holder.accepts messageId channel) =
          some found → seat.request ≠ found.request := by
        intro found hfound heq
        exact hnot (heq ▸ List.mem_map_of_mem (List.mem_of_find?_eq_some hfound))
      rw [waiters_cons]
      by_cases hid : seat.request.messageId = messageId
      · rw [if_pos hid, answerFirst, List.find?_cons, accepts_iff_waiter hid]
        cases haccepts : seat.waiter.accepts channel with
        | true =>
            rw [if_pos rfl, Option.map_some, List.map_cons, waiters_cons,
              map_given_of_notMem hnot, request_given, if_pos hid, given_self]
        | false =>
            rw [if_neg Bool.false_ne_true, ih hrest, Option.map_map]
            apply Option.map_congr
            intro found hfound
            rw [Function.comp_apply, List.map_cons, given_of_ne (hlater found hfound),
              waiters_cons, if_pos hid]
      · have hrefuses : seat.holder.accepts messageId channel = false := by
          have hother : ¬ seat.holder.request.AnsweredBy messageId channel := fun h => hid h.1
          simp [Holder.accepts, hother]
        rw [if_neg hid, ih hrest, List.find?_cons, hrefuses]
        apply Option.map_congr
        intro found hfound
        rw [List.map_cons, given_of_ne (hlater found hfound), waiters_cons, if_neg hid]

/-- A token and an identifier name one seat. -/
theorem takeFirst_waiters (htokens : (seats.map Seat.token).Nodup)
    (hrequests : (seats.map Seat.request).Nodup) (hseat : seat ∈ seats) :
    takeFirst seat.token (waiters seat.request.messageId seats) =
      seat.holder.response.map fun message =>
        (message, waiters seat.request.messageId (seats.map (Seat.given seat.request none))) := by
  induction seats with
  | nil => cases hseat
  | cons first rest ih =>
      obtain ⟨htoken, htokens⟩ := List.nodup_cons.mp htokens
      obtain ⟨hrequest, hrequests⟩ := List.nodup_cons.mp hrequests
      rcases List.mem_cons.mp hseat with rfl | hrest
      · have htoken : seat.waiter.token = seat.token := rfl
        rw [waiters_cons, if_pos rfl, takeFirst, if_pos htoken]
        change seat.holder.response.map _ = _
        apply Option.map_congr
        intro message _
        rw [List.map_cons, map_given_of_notMem hrequest, waiters_cons, request_given, if_pos rfl,
          given_self]
      · have hne : first.request ≠ seat.request := fun heq =>
          hrequest (heq ▸ List.mem_map_of_mem hrest)
        have hother : first.waiter.token ≠ seat.token := by
          intro heq
          change first.token = seat.token at heq
          exact htoken (heq ▸ List.mem_map_of_mem hrest)
        rw [waiters_cons, List.map_cons, given_of_ne hne]
        split
        next hid =>
          rw [takeFirst, if_neg hother, ih htokens hrequests hrest, Option.map_map]
          apply Option.map_congr
          intro message _
          rw [Function.comp_apply, waiters_cons, if_pos hid]
        next hid =>
          rw [ih htokens hrequests hrest]
          apply Option.map_congr
          intro message _
          rw [waiters_cons, if_neg hid]

theorem find?_waiter (htokens : (seats.map Seat.token).Nodup) (hseat : seat ∈ seats) :
    ((waiters seat.request.messageId seats).find? fun waiter =>
      waiter.token = seat.waiter.token) = some seat.waiter := by
  have hnodup : ((waiters seat.request.messageId seats).map Waiter.token).Nodup := by
    rw [waiters, List.map_map]
    exact htokens.sublist (List.filter_sublist.map _)
  refine find?_of_nodup_map hnodup (List.mem_map_of_mem ?_)
  exact List.mem_filter.mpr ⟨hseat, by simp⟩

theorem waiters_append (messageId : UInt8) (first second : List Seat) :
    waiters messageId (first ++ second) = waiters messageId first ++ waiters messageId second := by
  simp [waiters]

theorem length_leave (request : Request) (seats : List Seat) :
    (seats.filter fun seat => seat.request ≠ request).length +
        (waiters request.messageId seats).length =
      seats.length +
        (waiters request.messageId (seats.filter fun seat => seat.request ≠ request)).length := by
  induction seats with
  | nil => rfl
  | cons seat rest ih =>
      by_cases hseat : seat.request = request
      · rw [List.filter_cons_of_neg (by simp [hseat]), waiters_cons, if_pos (by rw [hseat]),
          List.length_cons, List.length_cons]
        omega
      · rw [List.filter_cons_of_pos (by simp [hseat]), waiters_cons, waiters_cons]
        split
        · simp only [List.length_cons]
          omega
        · simp only [List.length_cons]
          omega

/-- Giving a response to a request leaves the waiters of every other identifier alone. -/
theorem waiters_given_of_ne (hne : messageId ≠ request.messageId) :
    waiters messageId (seats.map (Seat.given request response)) = waiters messageId seats := by
  induction seats with
  | nil => rfl
  | cons seat rest ih =>
      rw [List.map_cons, waiters_cons, waiters_cons, request_given, ih]
      split
      next hid =>
        rw [given_of_ne fun heq => hne (hid.symm.trans (congrArg Request.messageId heq))]
      next => rfl

theorem waiters_leave_of_ne (hne : messageId ≠ request.messageId) :
    waiters messageId (seats.filter fun seat => seat.request ≠ request) =
      waiters messageId seats := by
  unfold waiters
  rw [List.filter_filter]
  congr 1
  apply List.filter_congr
  intro seat _
  by_cases hid : seat.request.messageId = messageId
  · have hother : seat.request ≠ request := fun heq =>
      hne (hid.symm.trans (congrArg Request.messageId heq))
    simp [hid, hother]
  · simp [hid]

theorem waiters_leave (htokens : (seats.map Seat.token).Nodup)
    (hrequests : (seats.map Seat.request).Nodup) (hseat : seat ∈ seats) :
    waiters seat.request.messageId (seats.filter fun other => other.request ≠ seat.request) =
      (waiters seat.request.messageId seats).filter fun waiter => waiter.token ≠ seat.token := by
  unfold waiters
  rw [List.filter_map, List.filter_filter, List.filter_filter]
  congr 1
  apply List.filter_congr
  intro other hother
  have hsame : other.request = seat.request ↔ other.token = seat.token :=
    ⟨fun heq => congrArg token (List.inj_on_of_nodup_map hrequests hother hseat heq),
      fun heq => congrArg Seat.request (List.inj_on_of_nodup_map htokens hother hseat heq)⟩
  by_cases hid : other.request.messageId = seat.request.messageId
  · simp only [Function.comp_apply, waiter, hid, decide_true, Bool.and_true, Bool.true_and]
    exact decide_eq_decide.mpr (not_congr hsame)
  · simp only [hid, decide_false, Bool.and_false, Bool.false_and]

end Seat

/-! ## What one tracker operation does to the list -/

/-- Replacing the waiters of an identifier changes how many of a kind there are by the
difference. -/
theorem KeyedList.countP_values_set (kind : Waiter → Bool) (list : KeyedList UInt8 (List Waiter))
    (key : UInt8) (entry : List Waiter) :
    (list.set key entry).values.flatten.countP kind + ((list.get? key).getD []).countP kind =
      list.values.flatten.countP kind + entry.countP kind := by
  obtain ⟨entries⟩ := list
  unfold set get? values
  induction entries with
  | nil => simp [replace, find?]
  | cons head rest ih =>
      obtain ⟨other, old⟩ := head
      rw [replace, find?]
      split
      next => simp; omega
      next =>
        simp only [List.map_cons, List.flatten_cons, List.countP_append] at ih ⊢
        omega

theorem Tracker.pending_setWaiters (tracker : Tracker) (messageId : UInt8)
    (waiters : List Waiter) :
    (tracker.setWaiters messageId waiters).pending + (tracker.waitersFor messageId).length =
      tracker.pending + waiters.length := by
  have hcount := tracker.waiting.countP_values_set (fun _ => true) messageId waiters
  simp only [List.countP_true] at hcount
  exact hcount

/-- The desk's tracker keeps exactly the waiters of the seats, and the list their holders. -/
structure Seated (seats : List Seat) (count : Nat) (desk : TicketDesk) (list : WaitingList) :
    Prop where
  holders : list.holders = seats.map Seat.holder
  closed : desk.tracker.closed = list.closed
  held : desk.held = seats.map fun seat => (seat.request, seat.ticket)
  waitersFor : ∀ messageId, desk.tracker.waitersFor messageId = Seat.waiters messageId seats
  pending : desk.tracker.pending = seats.length
  requests_nodup : (seats.map Seat.request).Nodup
  tokens_nodup : (seats.map Seat.token).Nodup
  /-- Tokens have not come round yet. -/
  token_lt : ∀ seat ∈ seats, seat.token.toNat < count
  nextToken : desk.tracker.nextToken = UInt64.ofNat count

namespace Seated

open AntHost.Tracker (Event Answer)

variable {seats : List Seat} {count : Nat} {desk : TicketDesk} {list : WaitingList}
  {request : Request} {seat : Seat}

theorem fresh : Seated [] 0 {} {} where
  holders := rfl
  closed := rfl
  held := rfl
  waitersFor _ := rfl
  pending := rfl
  requests_nodup := List.nodup_nil
  tokens_nodup := List.nodup_nil
  token_lt _ h := nomatch h
  nextToken := rfl

theorem holds_iff (hseated : Seated seats count desk list) :
    list.Holds request ↔ ∃ seat ∈ seats, seat.request = request := by
  rw [WaitingList.Holds, hseated.holders, List.map_map, List.mem_map]
  rfl

theorem ticketFor?_of_mem (hseated : Seated seats count desk list) (hseat : seat ∈ seats) :
    desk.ticketFor? seat.request = some seat.ticket := by
  have hfound := find?_of_nodup_map hseated.requests_nodup hseat
  rw [TicketDesk.ticketFor?, hseated.held, List.find?_map]
  simp only [Function.comp_def, hfound, Option.map_some]

theorem ticketFor?_eq_none (hseated : Seated seats count desk list)
    (hnot : ¬ list.Holds request) : desk.ticketFor? request = none := by
  rw [TicketDesk.ticketFor?, hseated.held, List.find?_map, Option.map_map, Option.map_eq_none_iff,
    List.find?_eq_none]
  intro seat hseat hsame
  exact hnot (hseated.holds_iff.mpr ⟨seat, hseat, by simpa using hsame⟩)

theorem stored_of_mem (hseated : Seated seats count desk list) (hseat : seat ∈ seats) :
    list.stored seat.request = seat.holder.response := by
  have hfound := find?_of_nodup_map hseated.requests_nodup hseat
  rw [WaitingList.stored, hseated.holders, List.find?_map]
  change ((seats.find? fun other => other.request = seat.request).map Seat.holder).bind _ = _
  rw [hfound]
  rfl

/-- A tracker whose waiters of one identifier are replaced by those of other seats. -/
theorem setWaiters_waitersFor (hseated : Seated seats count desk list) (messageId : UInt8)
    (others : List Seat)
    (hothers : ∀ other, other ≠ messageId → Seat.waiters other others = Seat.waiters other seats)
    (other : UInt8) :
    (desk.tracker.setWaiters messageId (Seat.waiters messageId others)).waitersFor other =
      Seat.waiters other others := by
  rw [Tracker.waitersFor_setWaiters]
  split
  next heq => rw [heq]
  next hne => rw [hseated.waitersFor, hothers other hne]

/-- A response given to a request, or taken from it, at the tracker and on the list. -/
theorem give (hseated : Seated seats count desk list) (request : Request)
    (response : Option Message) :
    Seated (seats.map (Seat.given request response)) count
      ⟨desk.tracker.setWaiters request.messageId
        (Seat.waiters request.messageId (seats.map (Seat.given request response))), desk.held⟩
      (list.give request response) where
  holders := by
    simp only [WaitingList.give, hseated.holders, List.map_map]
    rfl
  closed := hseated.closed
  held := by
    simp only [hseated.held, List.map_map]
    apply List.map_congr_left
    intro seat _
    rw [Function.comp_apply, Seat.ticket, Seat.ticket, Seat.request_given]
    rfl
  waitersFor := hseated.setWaiters_waitersFor _ _ fun other hne => Seat.waiters_given_of_ne hne
  pending := by
    have hpending := desk.tracker.pending_setWaiters request.messageId
      (Seat.waiters request.messageId (seats.map (Seat.given request response)))
    rw [hseated.waitersFor, Seat.length_waiters, Seat.length_waiters, Seat.map_request_given,
      hseated.pending] at hpending
    rw [List.length_map]
    exact Nat.add_right_cancel hpending
  requests_nodup := by
    rw [Seat.map_request_given]
    exact hseated.requests_nodup
  tokens_nodup := by
    rw [Seat.map_token_given]
    exact hseated.tokens_nodup
  token_lt := by
    intro seat hseat
    obtain ⟨before, hbefore, rfl⟩ := List.mem_map.mp hseat
    exact hseated.token_lt before hbefore
  nextToken := hseated.nextToken

theorem register (hseated : Seated seats count desk list) (hnot : ¬ list.Holds request)
    (hcount : count + 1 < UInt64.size) :
    Seated (seats ++ [⟨{ request }, UInt64.ofNat count⟩]) (count + 1)
      ⟨(desk.tracker.register request.messageId request.channel).2,
        desk.held ++ [(request, (desk.tracker.register request.messageId request.channel).1)]⟩
      { list with holders := list.holders ++ [{ request }] } where
  holders := by simp [hseated.holders]
  closed := hseated.closed
  held := by
    rw [hseated.held, List.map_append, Tracker.register, hseated.nextToken]
    rfl
  waitersFor messageId := by
    rw [Tracker.register, hseated.nextToken, hseated.waitersFor]
    change (desk.tracker.setWaiters _ _).waitersFor messageId = _
    have hlast : Seat.waiters messageId [⟨{ request }, UInt64.ofNat count⟩] =
        if request.messageId = messageId then
          [{ token := UInt64.ofNat count, channel := request.channel }]
        else [] := Seat.waiters_cons
    rw [Tracker.waitersFor_setWaiters, hseated.waitersFor, Seat.waiters_append, hlast]
    by_cases hid : messageId = request.messageId
    · rw [if_pos hid, if_pos hid.symm, hid]
    · rw [if_neg hid, if_neg (Ne.symm hid), List.append_nil]
  pending := by
    have hpending := desk.tracker.pending_setWaiters request.messageId
      (desk.tracker.waitersFor request.messageId ++
        [{ token := desk.tracker.nextToken, channel := request.channel }])
    change (desk.tracker.setWaiters _ _).pending = _
    rw [List.length_append, hseated.pending] at hpending
    rw [List.length_append]
    simp only [List.length_singleton] at hpending ⊢
    omega
  requests_nodup := by
    rw [List.map_append]
    refine hseated.requests_nodup.append (List.nodup_singleton _) ?_
    intro other hother hnew
    obtain ⟨seat, hseat, rfl⟩ := List.mem_map.mp hother
    exact hnot (hseated.holds_iff.mpr ⟨seat, hseat, List.mem_singleton.mp hnew⟩)
  tokens_nodup := by
    rw [List.map_append]
    refine hseated.tokens_nodup.append (List.nodup_singleton _) ?_
    intro other hother hnew
    obtain ⟨seat, hseat, rfl⟩ := List.mem_map.mp hother
    have hlt := hseated.token_lt seat hseat
    rw [List.mem_singleton.mp hnew, UInt64.toNat_ofNat_of_lt' (Nat.lt_of_succ_lt hcount)] at hlt
    exact Nat.lt_irrefl _ hlt
  token_lt := by
    intro seat hseat
    rcases List.mem_append.mp hseat with hold | hnew
    · exact Nat.lt_succ_of_lt (hseated.token_lt seat hold)
    · rw [List.mem_singleton.mp hnew]
      rw [UInt64.toNat_ofNat']
      exact Nat.lt_succ_of_le (Nat.mod_le ..)
  nextToken := by
    change desk.tracker.nextToken + 1 = _
    rw [hseated.nextToken, UInt64.ofNat_add]
    rfl

theorem leave (hseated : Seated seats count desk list) (hseat : seat ∈ seats) :
    Seated (seats.filter fun other => other.request ≠ seat.request) count
      (desk.without seat.request (desk.tracker.unregister seat.ticket))
      (list.leave seat.request) where
  holders := by
    simp only [WaitingList.leave, hseated.holders, List.filter_map]
    rfl
  closed := hseated.closed
  held := by
    simp only [TicketDesk.without, hseated.held, List.filter_map]
    rfl
  waitersFor := by
    have hwaiters := Seat.waiters_leave hseated.tokens_nodup hseated.requests_nodup hseat
    rw [← hseated.waitersFor] at hwaiters
    intro messageId
    change (desk.tracker.setWaiters _ _).waitersFor messageId = _
    change (desk.tracker.setWaiters seat.request.messageId
      ((desk.tracker.waitersFor seat.request.messageId).filter fun waiter =>
        waiter.token ≠ seat.token)).waitersFor messageId = _
    rw [← hwaiters]
    exact hseated.setWaiters_waitersFor _ _ (fun other hne => Seat.waiters_leave_of_ne hne) _
  pending := by
    have hwaiters := Seat.waiters_leave hseated.tokens_nodup hseated.requests_nodup hseat
    rw [← hseated.waitersFor] at hwaiters
    have hpending := desk.tracker.pending_setWaiters seat.request.messageId
      ((desk.tracker.waitersFor seat.request.messageId).filter fun waiter =>
        waiter.token ≠ seat.token)
    rw [← hwaiters, hseated.waitersFor, hseated.pending] at hpending
    have hlength := Seat.length_leave seat.request seats
    change (desk.tracker.setWaiters seat.request.messageId
      ((desk.tracker.waitersFor seat.request.messageId).filter fun waiter =>
        waiter.token ≠ seat.token)).pending = _
    rw [← hwaiters]
    omega
  requests_nodup := hseated.requests_nodup.sublist (List.filter_sublist.map _)
  tokens_nodup := hseated.tokens_nodup.sublist (List.filter_sublist.map _)
  token_lt other hother := hseated.token_lt other (List.mem_of_mem_filter hother)
  nextToken := hseated.nextToken

theorem close (hseated : Seated seats count desk list) :
    Seated seats count ⟨desk.tracker.close, desk.held⟩ { list with closed := true } where
  holders := hseated.holders
  closed := rfl
  held := hseated.held
  waitersFor := hseated.waitersFor
  pending := hseated.pending
  requests_nodup := hseated.requests_nodup
  tokens_nodup := hseated.tokens_nodup
  token_lt := hseated.token_lt
  nextToken := hseated.nextToken

end Seated

end AntHost
