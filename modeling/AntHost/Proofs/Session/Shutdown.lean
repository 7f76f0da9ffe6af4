import AntHost.Proofs.Session.Waiting
import AntHost.Proofs.Session.Wire
import AntHost.Proofs.Tracker.Closed
/-!
# The end of a session

The router leaves its loop for whatever reason, shows that it stopped, and ends first the waits for
responses and then those for transfers. Nothing can wait for ever from then on: a wait
ends at its first look, or panics before it since the clock cannot hold its deadline. Already when a
stop was asked for or a call has marked the session closed, calls that begin later write nothing.
-/

namespace AntHost

variable {H β : Type}

/-! ## How far the end is -/

theorem RouterState.rank_pos_iff {state : RouterState} : 0 < state.rank ↔ state ≠ .running := by
  cases state <;> simp [rank]

theorem Session.requestStop_state_eq_stopped_iff {session : Session H β} :
    session.requestStop.state = .stopped ↔ session.state = .stopped := by
  cases hstate : session.state <;> simp [requestStop, markStopping, hstate]

theorem Op.onState_eq_stopped_iff {op : Op} {state : RouterState} :
    op.onState state = .stopped ↔ state = .stopped := by
  cases op with
  | markStopping => cases state <;> simp [onState]
  | _ => simp [onState]

namespace Session

/-- Nothing may be written any more: the session is marked closed, or its router was asked to stop
or has stopped. -/
def Down (session : Session H β) : Prop := session.closed = true ∨ session.state ≠ .running

variable {session before after : Session H β}

theorem Down.mayWrite (hdown : session.Down) : session.mayWrite = false := by
  rcases hdown with hclosed | hstate
  · simp [Session.mayWrite, hclosed]
  · simp [Session.mayWrite, hstate]

theorem Ages.down (hages : before.Ages after) (hdown : before.Down) : after.Down := by
  rcases hdown with hclosed | hstate
  · exact .inl (hages.closed hclosed)
  · right
    rw [← RouterState.rank_pos_iff] at hstate ⊢
    exact Nat.lt_of_lt_of_le hstate hages.state

end Session

namespace LinkStage

variable {stage : LinkStage}

/-- What may not be written, is not. -/
theorem frames_of_uncleared {op : Op} {limit : PayloadLimit} {call : Call}
    (hallows : stage.Allows limit call op) (huncleared : stage.cleared = false) :
    op.frames = [] := by
  cases op with
  | write frame =>
      rw [hallows.1] at huncleared
      cases huncleared
  | _ => rfl

/-- When nothing may be written any more, no look clears a call to write. -/
theorem uncleared_next {op : Op} {reply : op.Reply} {now : Nat}
    {link : Except TransportError Unit} {session later : Session H β} (hdown : session.Down)
    (hexec : op.exec now link session = some (reply, later))
    (huncleared : stage.cleared = false) : (stage.next op reply).cleared = false := by
  cases op with
  | mayWrite =>
      cases hexec
      exact hdown.mayWrite
  | write => rfl
  | _ => exact huncleared

end LinkStage

namespace Machine

variable [DecidableEq β] {config : Config} {events before after : List (Event H β)}
  {machine next last : Machine H β} {event : Event H β} {stages later : Nat → LinkStage}
  {thread count : Nat} {call : Call}

/-- Since nothing may be written any more, the calls that began have written nothing, and none of
them is cleared to. -/
structure Muting (count : Nat) (machine : Machine H β) (stages : Nat → LinkStage) : Prop where
  down : machine.session.Down
  written : ∀ thread, count ≤ thread → machine.written thread = []
  uncleared : ∀ thread, count ≤ thread → (stages thread).cleared = false

namespace Muting

variable {history : List (Event H β)}

/-- At first no call has begun. -/
theorem fresh {sent : List (Nat × Message)}
    (hconducted : Conducted (linkConduct config.limit) config events machine stages)
    (hframed : Framed config events machine stages sent) (hdown : machine.session.Down) :
    Muting machine.threads.length machine stages := by
  refine ⟨hdown, ?_, ?_⟩
  · intro thread hge
    exact (written_eq_nil_iff hframed.writes).mpr (hframed.sentBy_eq_nil hge)
  · intro thread hge
    rw [hconducted.idle thread hge]
    rfl

theorem performed (hmuting : Muting count machine stages)
    (hconducted : Conducted (linkConduct config.limit) config events machine stages)
    {link : Except TransportError Unit} {op : Op}
    {rest : op.Reply → Program (Except CallError Reply)} {reply : op.Reply}
    {session : Session H β} (hthread : machine.threads[thread]? = some (.perform op rest))
    (hexec : op.exec machine.now link machine.session = some (reply, session)) :
    Muting count
      { machine.record thread op with
        session, threads := machine.threads.set thread (rest reply) }
      (Function.update stages thread ((stages thread).next op reply)) := by
  refine ⟨(Op.exec_ages hexec).down hmuting.down, ?_, ?_⟩
  · intro other hge
    by_cases hsame : other = thread
    · subst hsame
      obtain ⟨call, _, hallows, _⟩ := hconducted.allows hthread
      rw [written_record_self, hmuting.written other hge,
        LinkStage.frames_of_uncleared hallows (hmuting.uncleared other hge)]
      rfl
    · rw [written_record_of_ne op hsame]
      exact hmuting.written other hge
  · intro other hge
    by_cases hsame : other = thread
    · subst hsame
      rw [Function.update_self]
      exact LinkStage.uncleared_next hmuting.down hexec (hmuting.uncleared other hge)
    · rw [Function.update_of_ne hsame]
      exact hmuting.uncleared other hge

theorem step (hmuting : Muting count machine stages)
    (hconducted : Conducted (linkConduct config.limit) config events machine stages)
    (hstep : machine.step event = some next)
    (hadvances : Advances (linkConduct config.limit) machine stages event next later) :
    Muting count next later := by
  have hdown := (step_ages hstep).down hmuting.down
  cases hadvances with
  | begun call onRouter =>
      refine ⟨hdown, hmuting.written, ?_⟩
      intro thread hge
      by_cases hnew : thread = machine.threads.length
      · rw [hnew, Function.update_self]
        rfl
      · rw [Function.update_of_ne hnew]
        exact hmuting.uncleared thread hge
  | performed hthread hexec => exact hmuting.performed hconducted hthread hexec
  | routed | changed => exact ⟨hdown, hmuting.written, hmuting.uncleared⟩

end Muting

theorem step_of_reached (hbefore : (start config).run events = some machine)
    (hafter : (start config).run (events ++ [event]) = some next) :
    machine.step event = some next := by
  rw [run_append, hbefore, Option.bind_some, run] at hafter
  obtain ⟨last, hstep, hlast⟩ := Option.bind_eq_some_iff.mp hafter
  cases hlast
  exact hstep

end Machine

end AntHost
