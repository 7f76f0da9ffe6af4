import AntHost.Proofs.Session.Holder
/-!
# The life of a session

A session runs, may be asked to stop, and stops. Its settings stay what they were, and whatever
marks that it comes to its end stays, too.
-/

namespace AntHost

variable {H β : Type}

/-- How late a state comes. -/
def RouterState.rank : RouterState → Nat
  | running => 0
  | stopping => 1
  | stopped => 2

theorem RouterState.rank_le_stopped (state : RouterState) : state.rank ≤ stopped.rank := by
  cases state <;> decide

/-! ## Operations -/

namespace Op

variable {op : Op} {reply : op.Reply} {session next : Session H β} {now : Nat}
  {link : Except TransportError Unit}

/-- The router's state after an operation. -/
def onState : Op → RouterState → RouterState
  | markStopping, .running => .stopping
  | _, state => state

theorem rank_le_onState (op : Op) (state : RouterState) : state.rank ≤ (op.onState state).rank := by
  cases op with
  | markStopping => cases state <;> decide
  | _ => exact Nat.le_refl _

/-- An operation changes at most the requests, the transfer, and how far the end of the session
is. -/
theorem exec_frame (hexec : op.exec now link session = some (reply, next)) :
    next = { session with
      tracker := next.tracker
      transfer := next.transfer
      state := op.onState session.state
      closed := session.closed || op = swapClosed
      stopRequested := next.stopRequested
      linkClosed := session.linkClosed || op = closeTransport } := by
  cases op with
  | awaitResponse | beginTransfer | awaitOutcome =>
      obtain ⟨result, _, heq⟩ := Option.map_eq_some_iff.mp hexec
      cases heq
      simp [onState]
  | awaitStopped | joinRouter =>
      rw [exec] at hexec
      split at hexec
      next =>
        cases hexec
        simp [onState]
      next => cases hexec
  | markStopping =>
      cases hexec
      rw [Session.markStopping]
      cases session.state <;> simp [onState]
  | _ =>
      cases hexec
      simp [onState]

end Op

/-! ## Ageing -/

namespace Session

/-- What may have become of a session: its settings stay, and neither the router's state nor the
mark that the session is closed ever goes back. -/
structure Ages (before after : Session H β) : Prop where
  config : after.config = before.config
  state : before.state.rank ≤ after.state.rank
  closed : before.closed = true → after.closed = true

variable {before middle after : Session H β}

theorem Ages.refl (session : Session H β) : session.Ages session := ⟨rfl, Nat.le_refl _, id⟩

theorem Ages.trans (hfirst : before.Ages middle) (hsecond : middle.Ages after) :
    before.Ages after :=
  ⟨hsecond.config.trans hfirst.config, Nat.le_trans hfirst.state hsecond.state,
    fun hclosed => hsecond.closed (hfirst.closed hclosed)⟩

end Session

theorem Session.rank_le_requestStop (session : Session H β) :
    session.state.rank ≤ session.requestStop.state.rank := by
  cases hstate : session.state <;> simp [requestStop, markStopping, RouterState.rank, hstate]

theorem Op.exec_ages {op : Op} {reply : op.Reply} {session next : Session H β} {now : Nat}
    {link : Except TransportError Unit} (hexec : op.exec now link session = some (reply, next)) :
    session.Ages next := by
  rw [exec_frame hexec]
  exact ⟨rfl, op.rank_le_onState _, fun hclosed => by simp [hclosed]⟩

namespace Machine

variable [DecidableEq β] {machine next last : Machine H β} {event : Event H β}
  {events : List (Event H β)}

theorem step_ages (hstep : machine.step event = some next) :
    machine.session.Ages next.session := by
  cases event with
  | begin | tick | setCancel | installCancel | setTable =>
      cases hstep
      exact ⟨rfl, Nat.le_refl _, id⟩
  | requestStop =>
      cases hstep
      exact ⟨rfl, machine.session.rank_le_requestStop, id⟩
  | perform thread link =>
      obtain ⟨_, _, _, _, _, hexec, rfl⟩ := exists_of_step_perform hstep
      exact Op.exec_ages hexec
  | route message =>
      obtain ⟨_, heq⟩ := Option.ite_none_right_eq_some.mp hstep
      cases heq
      change machine.session.Ages (machine.session.route message).2
      rw [Session.route_frame]
      exact ⟨rfl, Nat.le_refl _, id⟩
  | leave =>
      obtain ⟨_, heq⟩ := Option.ite_none_right_eq_some.mp hstep
      cases heq
      exact ⟨rfl, machine.session.state.rank_le_stopped, id⟩
  | endRequests | endTransfers =>
      obtain ⟨_, heq⟩ := Option.ite_none_right_eq_some.mp hstep
      cases heq
      exact ⟨rfl, Nat.le_refl _, id⟩

/-- A run is a part of a session's life. -/
theorem run_ages (hrun : machine.run events = some last) : machine.session.Ages last.session := by
  induction events generalizing machine with
  | nil =>
      cases hrun
      exact .refl _
  | cons event rest ih =>
      obtain ⟨next, hstep, hrest⟩ := Option.bind_eq_some_iff.mp hrun
      exact (step_ages hstep).trans (ih hrest)

theorem run_config {config : Config} (hrun : (start config).run events = some machine) :
    machine.session.config = config :=
  (run_ages hrun).config

end Machine

end AntHost
