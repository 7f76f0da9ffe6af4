/-!
# Logged runs

Steps that can happen or not, each with an answer, one after the other. The log of a run pairs every
event with what it answered, so that a law can speak of all that has happened so far.
-/

namespace AntHost

variable {State Event Answer : Type}

/-- The log of a run and the state after it, if its events can happen one after the other. -/
def replay (step : State → Event → Option (Answer × State)) (state : State) :
    List Event → Option (List (Event × Answer) × State)
  | [] => some ([], state)
  | event :: rest =>
      (step state event).bind fun (answer, next) =>
        (replay step next rest).map fun (log, last) => ((event, answer) :: log, last)

section Replay

variable {step : State → Event → Option (Answer × State)} {state last : State}
  {log : List (Event × Answer)}

theorem replay_cons_eq_some {event : Event} {rest : List Event} :
    replay step state (event :: rest) = some (log, last) ↔
      ∃ answer next later, step state event = some (answer, next) ∧
        replay step next rest = some (later, last) ∧ log = (event, answer) :: later := by
  simp only [replay, Option.bind_eq_some_iff, Option.map_eq_some_iff, Prod.exists, Prod.mk.injEq]
  constructor
  · rintro ⟨answer, next, hstep, later, _, hrest, rfl, rfl⟩
    exact ⟨answer, next, later, hstep, hrest, rfl⟩
  · rintro ⟨answer, next, later, hstep, hrest, rfl⟩
    exact ⟨answer, next, hstep, later, last, hrest, rfl, rfl⟩

theorem replay_append (first second : List Event) :
    replay step state (first ++ second) =
      (replay step state first).bind fun (log, middle) =>
        (replay step middle second).map fun (later, last) => (log ++ later, last) := by
  induction first generalizing state with
  | nil => simp [replay]
  | cons event rest ih =>
      rw [List.cons_append, replay, replay]
      cases step state event with
      | none => rfl
      | some result =>
          obtain ⟨answer, next⟩ := result
          simp only [Option.bind_some, ih]
          cases replay step next rest with
          | none => rfl
          | some result => simp [Function.comp_def]

theorem replay_concat (events : List Event) (event : Event) :
    replay step state (events ++ [event]) =
      (replay step state events).bind fun (log, middle) =>
        (step middle event).map fun (answer, last) => (log ++ [(event, answer)], last) := by
  rw [replay_append]
  cases replay step state events with
  | none => rfl
  | some result =>
      obtain ⟨log, middle⟩ := result
      cases hstep : step middle event <;> simp [replay, hstep]

theorem replay_events {events : List Event} (hrun : replay step state events = some (log, last)) :
    log.map Prod.fst = events := by
  induction events generalizing state log with
  | nil =>
      cases hrun
      rfl
  | cons event rest ih =>
      obtain ⟨answer, next, later, _, hrest, rfl⟩ := replay_cons_eq_some.mp hrun
      rw [List.map_cons, ih hrest]

/-- A run whose steps can always happen happens. -/
theorem exists_replay (hstep : ∀ state event, ∃ answer next, step state event = some (answer, next))
    (state : State) (events : List Event) :
    ∃ log last, replay step state events = some (log, last) := by
  induction events generalizing state with
  | nil => exact ⟨[], state, rfl⟩
  | cons event rest ih =>
      obtain ⟨answer, next, hnext⟩ := hstep state event
      obtain ⟨log, last, hrest⟩ := ih next
      exact ⟨_, last, replay_cons_eq_some.mpr ⟨answer, next, log, hnext, hrest, rfl⟩⟩

/-- What holds at the start and is kept by every step, given all that has happened, holds after
every run. -/
theorem replay_invariant {Holds : List (Event × Answer) → State → Prop} (hstart : Holds [] state)
    (hstep : ∀ log middle event answer next, Holds log middle →
      step middle event = some (answer, next) → Holds (log ++ [(event, answer)]) next)
    {events : List Event} (hrun : replay step state events = some (log, last)) :
    Holds log last := by
  suffices hlater : ∀ events earlier later middle, Holds earlier middle →
      replay step middle events = some (later, last) → Holds (earlier ++ later) last from
    hlater events [] log state hstart hrun
  intro events
  induction events with
  | nil =>
      intro earlier later middle hmiddle hrun
      cases hrun
      rwa [List.append_nil]
  | cons event rest ih =>
      intro earlier later middle hmiddle hrun
      obtain ⟨answer, next, tail, hnext, hrest, rfl⟩ := replay_cons_eq_some.mp hrun
      have htail := ih _ tail next (hstep earlier middle event answer next hmiddle hnext) hrest
      rwa [List.append_assoc] at htail

end Replay

end AntHost
