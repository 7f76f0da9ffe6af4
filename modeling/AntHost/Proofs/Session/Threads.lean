import AntHost.Proofs.Session.Lifecycle
import AntHost.Proofs.Tracker.Waiters
/-!
# The conduct of threads

A conduct is a protocol for every call, with the stage a call starts at and how it may end. What
all calls keep by themselves, every thread of a machine keeps in every interleaving, so an
invariant of runs may speak of the stages of the threads.
-/

namespace AntHost

variable {Stage : Type} {H β : Type}

/-- How every call behaves, told by the stages it goes through. -/
structure Conduct (Stage : Type) where
  /-- The stage of a thread that has no call yet. -/
  idle : Stage
  enter : Call → Stage
  allows : Call → Stage → Op → Prop
  next : Stage → (op : Op) → op.Reply → Stage
  ends : Call → Except CallError Reply → Stage → Prop

namespace Conduct

def protocol (conduct : Conduct Stage) (call : Call) : Protocol Stage where
  allows := conduct.allows call
  next := conduct.next

/-- Every call does what its conduct asks for, whatever it is told. -/
def Sound (conduct : Conduct Stage) : Prop :=
  ∀ config onRouter (call : Call), (call.program config onRouter).Keeps (conduct.protocol call)
    (conduct.ends call) (conduct.enter call)

/-- With these settings every call does what its conduct asks for. -/
def SoundFor (conduct : Conduct Stage) (config : Config) : Prop :=
  ∀ onRouter (call : Call), (call.program config onRouter).Keeps (conduct.protocol call)
    (conduct.ends call) (conduct.enter call)

end Conduct

namespace Machine

/-- The call of a thread has begun and not returned. -/
def InProgress (machine : Machine H β) (thread : Nat) : Prop :=
  ∃ op next, machine.threads[thread]? = some (.perform op next)

/-- What a thread does next, if its call has not returned. -/
def nextOp? (machine : Machine H β) (thread : Nat) : Option Op :=
  match machine.threads[thread]? with
  | some (.perform op _) => some op
  | _ => none

theorem getElem?_of_nextOp? {machine : Machine H β} {thread : Nat} {op : Op}
    (hnext : machine.nextOp? thread = some op) :
    ∃ rest, machine.threads[thread]? = some (.perform op rest) := by
  rw [nextOp?] at hnext
  split at hnext
  next next hthread =>
    cases hnext
    exact ⟨next, hthread⟩
  next => cases hnext

theorem lt_of_getElem? {machine : Machine H β} {thread : Nat}
    {program : Program (Except CallError Reply)}
    (hthread : machine.threads[thread]? = some program) : thread < machine.threads.length :=
  (List.getElem?_eq_some_iff.mp hthread).1

theorem getElem?_of_result? {machine : Machine H β} {thread : Nat}
    {result : Except CallError Reply} (hresult : machine.result? thread = some result) :
    machine.threads[thread]? = some (.done result) := by
  rw [result?] at hresult
  split at hresult
  next done hthread =>
    cases hresult
    exact hthread
  next => cases hresult

theorem inProgress_or_result {machine : Machine H β} {thread : Nat}
    (hlt : thread < machine.threads.length) :
    machine.InProgress thread ∨ ∃ result, machine.result? thread = some result := by
  have hthread := List.getElem?_eq_getElem hlt
  cases hprogram : machine.threads[thread] with
  | perform op next =>
      rw [hprogram] at hthread
      exact .inl ⟨op, next, hthread⟩
  | done result =>
      rw [hprogram] at hthread
      exact .inr ⟨result, by rw [result?, hthread]⟩

theorem now_record (machine : Machine H β) (thread : Nat) (op : Op) :
    (machine.record thread op).now = machine.now := by
  cases op <;> rfl

variable [DecidableEq β]

/-- Everything an event can do to a machine and to the stages of its threads. -/
inductive Advances (conduct : Conduct Stage) (machine : Machine H β) (stages : Nat → Stage) :
    Event H β → Machine H β → (Nat → Stage) → Prop where
  | begun (call : Call) (onRouter : Bool) :
      Advances conduct machine stages (.begin call onRouter)
        { machine with
          threads := machine.threads ++ [call.program machine.session.config onRouter] }
        (Function.update stages machine.threads.length (conduct.enter call))
  | performed {thread : Nat} {written : Except TransportError Unit} {op : Op}
      {rest : op.Reply → Program (Except CallError Reply)} {reply : op.Reply}
      {session : Session H β} (hthread : machine.threads[thread]? = some (.perform op rest))
      (hexec : op.exec machine.now written machine.session = some (reply, session)) :
      Advances conduct machine stages (.perform thread written)
        { machine.record thread op with
          session, threads := machine.threads.set thread (rest reply) }
        (Function.update stages thread (conduct.next (stages thread) op reply))
  | routed (message : Message) :
      Advances conduct machine stages (.route message)
        { machine with session := (machine.session.route message).2 } stages
  | changed {event : Event H β} {session : Session H β} {now : Nat}
      (hcall : event.call? = none) (hperform : ∀ thread written, event ≠ .perform thread written)
      (hroute : ∀ message, event ≠ .route message)
      (htracker : session.tracker = machine.session.tracker ∨
        session.tracker = machine.session.tracker.close)
      (hcancel : session.cancelRaised = machine.session.cancelRaised ∨
        event = .setCancel session.cancelRaised)
      (hnow : machine.now ≤ now) :
      Advances conduct machine stages event { machine with session, now } stages

variable {conduct : Conduct Stage} {config : Config} {events : List (Event H β)}
  {machine next : Machine H β} {event : Event H β} {stages later : Nat → Stage}

theorem exists_advances (conduct : Conduct Stage) (hstep : machine.step event = some next)
    (stages : Nat → Stage) : ∃ later, Advances conduct machine stages event next later := by
  cases event with
  | begin call onRouter =>
      cases hstep
      exact ⟨_, .begun call onRouter⟩
  | perform thread written =>
      obtain ⟨_, _, _, _, hthread, hexec, rfl⟩ := exists_of_step_perform hstep
      exact ⟨_, .performed hthread hexec⟩
  | route message =>
      rw [step] at hstep
      split at hstep
      next =>
        cases hstep
        exact ⟨_, .routed message⟩
      next => cases hstep
  | leave | endTransfers =>
      rw [step] at hstep
      split at hstep
      next =>
        cases hstep
        exact ⟨_, .changed rfl (by simp) (by simp) (.inl rfl) (.inl rfl) (Nat.le_refl _)⟩
      next => cases hstep
  | endRequests =>
      rw [step] at hstep
      split at hstep
      next =>
        cases hstep
        exact ⟨_, .changed rfl (by simp) (by simp) (.inr rfl) (.inl rfl) (Nat.le_refl _)⟩
      next => cases hstep
  | tick duration =>
      cases hstep
      exact ⟨_, .changed rfl (by simp) (by simp) (.inl rfl) (.inl rfl) (Nat.le_add_right _ _)⟩
  | setCancel raised =>
      cases hstep
      exact ⟨_, .changed rfl (by simp) (by simp) (.inl rfl) (.inr rfl) (Nat.le_refl _)⟩
  | installCancel | setTable | requestStop =>
      cases hstep
      exact ⟨_, .changed rfl (by simp) (by simp) (.inl rfl) (.inl rfl) (Nat.le_refl _)⟩

/-- The clock does not run back. -/
theorem Advances.now_le (hadvances : Advances conduct machine stages event next later) :
    machine.now ≤ next.now := by
  cases hadvances with
  | begun | routed => exact Nat.le_refl _
  | performed => exact Nat.le_of_eq (machine.now_record _ _).symm
  | changed _ _ _ _ _ hnow => exact hnow

/-- What an event does to the tracker, and to the stage of a thread whose call has begun: only what
the thread performs itself changes its stage. -/
inductive ThreadView (conduct : Conduct Stage) (machine : Machine H β) (stages later : Nat → Stage)
    (thread : Nat) (call : Call) : Event H β → Machine H β → Prop where
  | own {written : Except TransportError Unit} {op : Op}
      {rest : op.Reply → Program (Except CallError Reply)} {reply : op.Reply}
      {session : Session H β} (hthread : machine.threads[thread]? = some (.perform op rest))
      (hallows : conduct.allows call (stages thread) op)
      (hexec : op.exec machine.now written machine.session = some (reply, session))
      (hlater : later thread = conduct.next (stages thread) op reply) :
      ThreadView conduct machine stages later thread call (.perform thread written)
        { machine.record thread op with
          session, threads := machine.threads.set thread (rest reply) }
  | other {performer : Nat} {written : Except TransportError Unit} {op : Op}
      {rest : op.Reply → Program (Except CallError Reply)} {reply : op.Reply}
      {session : Session H β} (hother : performer ≠ thread)
      (hperformer : machine.threads[performer]? = some (.perform op rest))
      (hexec : op.exec machine.now written machine.session = some (reply, session))
      (hlater : later thread = stages thread) :
      ThreadView conduct machine stages later thread call (.perform performer written)
        { machine.record performer op with
          session, threads := machine.threads.set performer (rest reply) }
  | routed (message : Message) (hlater : later thread = stages thread) :
      ThreadView conduct machine stages later thread call (.route message)
        { machine with session := (machine.session.route message).2 }
  | kept {event : Event H β} {next : Machine H β} (hroute : ∀ message, event ≠ .route message)
      (htracker : next.session.tracker = machine.session.tracker ∨
        next.session.tracker = machine.session.tracker.close)
      (hlater : later thread = stages thread) :
      ThreadView conduct machine stages later thread call event next

/-! ## Every thread at its stage -/

/-- Every thread of a reached machine is at a stage of its call's conduct. -/
structure Conducted (conduct : Conduct Stage) (config : Config) (events : List (Event H β))
    (machine : Machine H β) (stages : Nat → Stage) : Prop where
  reached : (start config).run events = some machine
  length : machine.threads.length = (calls events).length
  keeps : ∀ thread (program : Program (Except CallError Reply)) call,
    machine.threads[thread]? = some program → (calls events)[thread]? = some call →
    program.Keeps (conduct.protocol call) (conduct.ends call) (stages thread)
  idle : ∀ thread, machine.threads.length ≤ thread → stages thread = conduct.idle

namespace Conducted

theorem fresh (conduct : Conduct Stage) (config : Config) :
    Conducted conduct config [] (start config : Machine H β) fun _ => conduct.idle where
  reached := rfl
  length := rfl
  keeps _ _ _ hthread := nomatch hthread
  idle _ _ := rfl

/-- A thread whose call begins is where idle threads are, if the call starts there. -/
theorem update_idle (hconducted : Conducted conduct config events machine stages) :
    Function.update stages machine.threads.length conduct.idle = stages := by
  rw [Function.update_eq_self_iff]
  exact (hconducted.idle _ (Nat.le_refl _)).symm

/-- What a thread does next, its call allows. -/
theorem allows (hconducted : Conducted conduct config events machine stages) {thread : Nat}
    {op : Op} {rest : op.Reply → Program (Except CallError Reply)}
    (hthread : machine.threads[thread]? = some (.perform op rest)) :
    ∃ call, (calls events)[thread]? = some call ∧ conduct.allows call (stages thread) op ∧
      ∀ reply, (rest reply).Keeps (conduct.protocol call) (conduct.ends call)
        (conduct.next (stages thread) op reply) := by
  have hlt := lt_of_getElem? hthread
  rw [hconducted.length] at hlt
  have hcall := List.getElem?_eq_getElem hlt
  exact ⟨_, hcall, hconducted.keeps thread _ _ hthread hcall⟩

theorem allows_of_nextOp? (hconducted : Conducted conduct config events machine stages)
    {thread : Nat} {call : Call} {op : Op} (hcall : (calls events)[thread]? = some call)
    (hnext : machine.nextOp? thread = some op) : conduct.allows call (stages thread) op := by
  obtain ⟨rest, hthread⟩ := getElem?_of_nextOp? hnext
  obtain ⟨own, hown, hallows, _⟩ := hconducted.allows hthread
  cases hown.symm.trans hcall
  exact hallows

/-- A call that has returned ended as it should. -/
theorem ends (hconducted : Conducted conduct config events machine stages) {thread : Nat}
    {call : Call} (hcall : (calls events)[thread]? = some call) {result : Except CallError Reply}
    (hresult : machine.result? thread = some result) :
    conduct.ends call result (stages thread) :=
  hconducted.keeps thread _ call (getElem?_of_result? hresult) hcall

/-- An event as a thread sees it whose call has begun. -/
theorem view (hconducted : Conducted conduct config events machine stages)
    (hadvances : Advances conduct machine stages event next later) {thread : Nat} {call : Call}
    (hcall : (calls events)[thread]? = some call) :
    ThreadView conduct machine stages later thread call event next := by
  have hlt : thread < machine.threads.length :=
    hconducted.length ▸ (List.getElem?_eq_some_iff.mp hcall).1
  cases hadvances with
  | begun own onRouter =>
      exact .kept nofun (.inl rfl) (Function.update_of_ne (Nat.ne_of_lt hlt) _ _)
  | @performed performer written op rest reply session hperformer hexec =>
      by_cases hsame : performer = thread
      · subst hsame
        obtain ⟨own, hown, hallows, _⟩ := hconducted.allows hperformer
        cases hown.symm.trans hcall
        exact .own hperformer hallows hexec (Function.update_self _ _ _)
      · exact .other hsame hperformer hexec (Function.update_of_ne (Ne.symm hsame) _ _)
  | routed message => exact .routed message rfl
  | changed _ _ hroute htracker => exact .kept hroute htracker rfl

theorem length_step (hconducted : Conducted conduct config events machine stages)
    (hadvances : Advances conduct machine stages event next later) :
    next.threads.length = (calls (events ++ [event])).length := by
  rw [calls_concat, List.length_append, ← hconducted.length]
  cases hadvances with
  | begun => exact List.length_append
  | performed => exact List.length_set
  | routed => rfl
  | changed hcall => rw [hcall]; rfl

theorem keeps_step (hsound : conduct.SoundFor config)
    (hconducted : Conducted conduct config events machine stages)
    (hadvances : Advances conduct machine stages event next later) (thread : Nat)
    {program : Program (Except CallError Reply)} {call : Call}
    (hthread : next.threads[thread]? = some program)
    (hcall : (calls (events ++ [event]))[thread]? = some call) :
    program.Keeps (conduct.protocol call) (conduct.ends call) (later thread) := by
  cases hadvances with
  | begun own onRouter =>
      rw [calls_concat] at hcall
      change (machine.threads ++ [_])[thread]? = _ at hthread
      change (calls events ++ [own])[thread]? = _ at hcall
      by_cases hnew : thread = machine.threads.length
      · subst hnew
        rw [List.getElem?_concat_length] at hthread
        rw [hconducted.length, List.getElem?_concat_length] at hcall
        cases hthread
        cases hcall
        rw [Function.update_self]
        rw [run_config hconducted.reached]
        exact hsound onRouter _
      · rw [getElem?_concat_of_ne hnew] at hthread
        rw [getElem?_concat_of_ne (hconducted.length ▸ hnew)] at hcall
        rw [Function.update_of_ne hnew]
        exact hconducted.keeps thread program call hthread hcall
  | @performed performer written op rest reply session hperformer hexec =>
      change (machine.threads.set performer (rest reply))[thread]? = _ at hthread
      rw [calls_concat_of_none rfl] at hcall
      by_cases hsame : thread = performer
      · subst hsame
        obtain ⟨own, hown, _, hkeeps⟩ := hconducted.allows hperformer
        rw [List.getElem?_set_self (lt_of_getElem? hperformer)] at hthread
        rw [hown] at hcall
        cases hthread
        cases hcall
        rw [Function.update_self]
        exact hkeeps reply
      · rw [List.getElem?_set_ne (Ne.symm hsame)] at hthread
        rw [Function.update_of_ne hsame]
        exact hconducted.keeps thread program call hthread hcall
  | routed message =>
      rw [calls_concat_of_none rfl] at hcall
      exact hconducted.keeps thread program call hthread hcall
  | changed hnone =>
      rw [calls_concat_of_none hnone] at hcall
      exact hconducted.keeps thread program call hthread hcall

theorem idle_step (hconducted : Conducted conduct config events machine stages)
    (hadvances : Advances conduct machine stages event next later) {thread : Nat}
    (hidle : next.threads.length ≤ thread) : later thread = conduct.idle := by
  cases hadvances with
  | begun call onRouter =>
      rw [List.length_append] at hidle
      rw [Function.update_of_ne (Nat.ne_of_gt hidle)]
      exact hconducted.idle thread (Nat.le_of_succ_le hidle)
  | @performed performer written op rest reply session hperformer hexec =>
      rw [List.length_set] at hidle
      have hlt := lt_of_getElem? hperformer
      rw [Function.update_of_ne (Nat.ne_of_gt (Nat.lt_of_lt_of_le hlt hidle))]
      exact hconducted.idle thread hidle
  | routed | changed => exact hconducted.idle thread hidle

theorem step (hsound : conduct.SoundFor config)
    (hconducted : Conducted conduct config events machine stages)
    (hstep : machine.step event = some next)
    (hadvances : Advances conduct machine stages event next later) :
    Conducted conduct config (events ++ [event]) next later where
  reached := run_concat hconducted.reached hstep
  length := hconducted.length_step hadvances
  keeps thread _ _ := hconducted.keeps_step hsound hadvances thread
  idle _ := hconducted.idle_step hadvances

/-- An invariant of machines and stages that every later event keeps holds after the run. -/
theorem run (hsound : conduct.SoundFor config)
    (Holds : List (Event H β) → Machine H β → (Nat → Stage) → Prop)
    {before after : List (Event H β)} {first last : Machine H β}
    (hconducted : Conducted conduct config before first stages)
    (hstart : Holds before first stages)
    (hstep : ∀ earlier middle event next current later, event ∈ after →
      Conducted conduct config earlier middle current → Holds earlier middle current →
      Conducted conduct config (earlier ++ [event]) next later →
      Advances conduct middle current event next later → Holds (earlier ++ [event]) next later)
    (hrun : first.run after = some last) :
    ∃ later, Conducted conduct config (before ++ after) last later ∧
      Holds (before ++ after) last later := by
  induction after generalizing before first stages with
  | nil =>
      cases hrun
      rw [List.append_nil]
      exact ⟨stages, hconducted, hstart⟩
  | cons event rest ih =>
      obtain ⟨next, hnext, hrest⟩ := Option.bind_eq_some_iff.mp hrun
      obtain ⟨later, hadvances⟩ := exists_advances conduct hnext stages
      have hafter := hconducted.step hsound hnext hadvances
      rw [List.append_cons]
      refine ih hafter ?_ (fun earlier middle other final current stages hmem => ?_) hrest
      · exact hstep before first event next stages later List.mem_cons_self hconducted hstart
          hafter hadvances
      · exact hstep earlier middle other final current stages (List.mem_cons_of_mem _ hmem)

end Conducted

end Machine

end AntHost
