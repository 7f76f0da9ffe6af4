import AntHost.Proofs.Session.Bookkeeping
import AntHost.Proofs.Session.Shutdown
/-!
# Who closes the link

Any number of threads may close a session. The first one to mark it closed sees the router stop,
waits until it is gone and closes the link, once. All others return at once, and how far the end has
come by then depends on the first one.
-/

namespace AntHost

variable {H β : Type}

/-! ## How a session is closed -/

/-- How far a call is with closing the session. -/
inductive CloseStage where
  | outside
  /-- The session was marked closed before. -/
  | late
  | marked
  | stopped
  | joined
  | finished
deriving DecidableEq

namespace CloseStage

def rank : CloseStage → Nat
  | outside | late => 0
  | marked => 1
  | stopped => 2
  | joined => 3
  | finished => 4

/-- The stage after a reply. -/
def next (stage : CloseStage) : (op : Op) → op.Reply → CloseStage
  | .swapClosed, already => if already then late else marked
  | .awaitStopped, _ => stopped
  | .joinRouter, _ => joined
  | .closeTransport, _ => finished
  | _, _ => stage

/-- What a call may do at a stage: one step after the other, and only for the one that marked the
session closed. -/
def Allows (call : Call) (stage : CloseStage) : Op → Prop
  | .swapClosed => call = .close ∧ stage = outside
  | .raiseStop | .markStopping | .awaitStopped => stage = marked
  | .joinRouter => stage = stopped
  | .closeTransport => stage = joined
  | _ => True

end CloseStage

/-- How a call ends: one that closes a session and succeeds was late or has done everything, and any
other has nothing to do with it. -/
def Call.Closes (call : Call) (result : Except CallError Reply) (stage : CloseStage) : Prop :=
  stage = .outside ∧ (call = .close → ∃ error, result = .error error) ∨
    call = .close ∧ (stage = .late ∨ stage = .finished)

def closeConduct : Conduct CloseStage where
  idle := .outside
  enter _ := .outside
  allows := CloseStage.Allows
  next := CloseStage.next
  ends := Call.Closes

namespace Call

open AntHost.Action

theorem open_of_asks {action : Action Reply} (honly : action.Only Op.Asks) :
    action.Only fun op => op.closes = false :=
  honly.mono fun _ hasks => hasks.2

theorem open_of_transmits {own : UInt8 → TransferKind → Prop} {carries : List UInt8 → Prop}
    {action : Action Reply} (honly : action.Only (Op.Transmits own carries)) :
    action.Only fun op => op.closes = false :=
  honly.mono fun _ htransmits => htransmits.2

/-- No other call takes part in the end of a session. -/
theorem only_open (config : Config) (onRouter : Bool) {call : Call} (hother : call ≠ .close) :
    (call.program config onRouter).Only fun op => op.closes = false := by
  cases call with
  | command body timeout =>
      cases timeout with
      | none => exact open_of_asks (only_acknowledge (asks_writeFramed _))
      | some timeout =>
          exact open_of_asks (only_acknowledge (asks_confirmCommand config body timeout))
  | raw id payload => exact open_of_asks (only_acknowledge (asks_writeFramed _))
  | reset timeout =>
      cases timeout with
      | none => exact open_of_asks (only_acknowledge (asks_writeFramed _))
      | some timeout => exact open_of_asks (only_fetch (asks_confirmReset config timeout))
  | request channel messageId timeout =>
      cases timeout with
      | none => exact open_of_asks (only_acknowledge (asks_writeFramed _))
      | some timeout =>
          exact open_of_asks (only_fetch (asks_requestMessage config channel messageId timeout))
  | broadcast channel data timeout | acknowledged channel data timeout =>
      cases timeout with
      | none => exact open_of_asks (only_acknowledge (asks_writeFramed _))
      | some timeout =>
          exact @open_of_transmits (fun _ _ => True) (fun _ => True) _
            (only_acknowledge (transmits_confirmData config timeout trivial trivial))
  | burst channel data timeout =>
      cases timeout with
      | none =>
          exact @open_of_transmits (fun _ _ => True) (fun _ => True) _
            (only_acknowledge (transmits_sendBurst config trivial fun _ _ => trivial))
      | some timeout =>
          exact @open_of_transmits (fun _ _ => True) (fun _ => True) _
            (only_acknowledge (transmits_confirmBurst config timeout trivial fun _ _ => trivial))
  | close => exact absurd rfl hother

theorem keeps_closeSession (onRouter : Bool) :
    (closeSession onRouter).Keeps (closeConduct.protocol .close)
      (fun _ later => later = .late ∨ later = .finished) (fun _ later => later = .outside)
      .outside := by
  unfold closeSession
  split
  next => exact rfl
  next =>
    refine keeps_perform.mpr ⟨⟨rfl, rfl⟩, ?_⟩
    intro already
    cases already with
    | true => exact .inl rfl
    | false =>
        refine keeps_perform.mpr ⟨rfl, fun _ => keeps_perform.mpr ⟨rfl, fun _ => ?_⟩⟩
        refine keeps_perform.mpr ⟨rfl, fun _ => keeps_perform.mpr ⟨rfl, fun _ => ?_⟩⟩
        exact ⟨rfl, fun _ => .inr rfl⟩

theorem closes : closeConduct.Sound := by
  intro config onRouter call
  by_cases hclose : call = .close
  · subst hclose
    have hkeeps : (acknowledge (closeSession onRouter)).Keeps (closeConduct.protocol .close)
        (fun _ later => later = .late ∨ later = .finished) (fun _ later => later = .outside)
        .outside := keeps_acknowledge (keeps_closeSession onRouter)
    refine Program.Keeps.mono hkeeps ?_
    rintro (error | reply) later hlater
    · exact .inl ⟨hlater, fun _ => ⟨error, rfl⟩⟩
    · exact .inr ⟨rfl, hlater⟩
  · have hkeeps : (call.program config onRouter).Keeps (closeConduct.protocol call)
        (fun _ later => later = .outside) .outside := by
      refine Program.Only.keeps (only_open config onRouter hclose) ?_ rfl
      rintro _ op rfl hop
      cases op with
      | swapClosed | raiseStop | markStopping | awaitStopped | joinRouter | closeTransport =>
          cases hop
      | _ => exact ⟨trivial, fun _ => rfl⟩
    refine hkeeps.mono ?_
    rintro result _ rfl
    exact .inl ⟨rfl, fun heq => absurd heq hclose⟩

end Call

/-! ## Closing in every interleaving -/

namespace Machine

variable {machine next : Machine H β} {event : Event H β} {stages later : Nat → CloseStage}
  {thread : Nat}

/-- One thread at most is on its way to close the link, and what it waited for has come. -/
structure Closing (machine : Machine H β) (stages : Nat → CloseStage) : Prop where
  unique : ∀ first second, 0 < (stages first).rank → 0 < (stages second).rank → first = second
  closed : machine.session.closed = true ↔ ∃ thread, 0 < (stages thread).rank
  late : ∀ thread, stages thread = .late → machine.session.closed = true
  stopped : ∀ thread, 2 ≤ (stages thread).rank → machine.session.state = .stopped
  joined : ∀ thread, 3 ≤ (stages thread).rank → machine.session.phase = .exited
  finished : ∀ thread, stages thread = .finished → machine.linkCloses = 1
  unfinished : (∀ thread, stages thread ≠ .finished) → machine.linkCloses = 0

/-- What becomes of the end of a session while nobody takes a step towards it. -/
structure Lasts (machine next : Machine H β) : Prop where
  closed : next.session.closed = machine.session.closed
  stopped : machine.session.state = .stopped → next.session.state = .stopped
  exited : machine.session.phase = .exited → next.session.phase = .exited
  link : next.linkCloses = machine.linkCloses

namespace Closing

theorem fresh (config : Config) : Closing (start config : Machine H β) fun _ => .outside := by
  constructor <;> simp [CloseStage.rank, start, Session.start]

theorem lasts (hclosing : Closing machine stages) (hlasts : machine.Lasts next) :
    Closing next stages := by
  obtain ⟨hunique, hclosed, hlate, hstopped, hjoined, hfinished, hunfinished⟩ := hclosing
  refine ⟨hunique, ?_, ?_, ?_, ?_, ?_, ?_⟩
  · rw [hlasts.closed]
    exact hclosed
  · rw [hlasts.closed]
    exact hlate
  · exact fun thread hrank => hlasts.stopped (hstopped thread hrank)
  · exact fun thread hrank => hlasts.exited (hjoined thread hrank)
  · rw [hlasts.link]
    exact hfinished
  · rw [hlasts.link]
    exact hunfinished

/-- Who comes too late has nothing to do. -/
theorem comeLate (hclosing : Closing machine stages) (hout : stages thread = .outside)
    (hlate : machine.session.closed = true) (hlasts : machine.Lasts next) :
    Closing next (Function.update stages thread .late) := by
  have hrank : ∀ other, (Function.update stages thread .late other).rank = (stages other).rank := by
    intro other
    by_cases hother : other = thread
    · rw [hother, Function.update_self, hout]
      rfl
    · rw [Function.update_of_ne hother]
  have hfinished : ∀ other, Function.update stages thread .late other = .finished ↔
      stages other = .finished := by
    intro other
    by_cases hother : other = thread
    · rw [hother, Function.update_self, hout]
      simp
    · rw [Function.update_of_ne hother]
  obtain ⟨hunique, hclosed, _, hstopped, hjoined, hone, hnone⟩ := hclosing.lasts hlasts
  refine ⟨?_, ?_, ?_, ?_, ?_, ?_, ?_⟩
  · simpa only [hrank] using hunique
  · simpa only [hrank] using hclosed
  · intro _ _
    rw [hlasts.closed]
    exact hlate
  · simpa only [hrank] using hstopped
  · simpa only [hrank] using hjoined
  · simpa only [hfinished] using hone
  · simpa only [ne_eq, hfinished] using hnone

/-- The first to mark a session closed is the only one. -/
theorem comeFirst (hclosing : Closing machine stages) (hopen : machine.session.closed = false)
    (hclosed : next.session.closed = true) (hlink : next.linkCloses = machine.linkCloses) :
    Closing next (Function.update stages thread .marked) := by
  have hnobody : ∀ other, (stages other).rank = 0 := by
    intro other
    by_contra hrank
    have hclosed := hclosing.closed.mpr ⟨other, Nat.pos_of_ne_zero hrank⟩
    rw [hopen] at hclosed
    cases hclosed
  have honly : ∀ other, other ≠ thread →
      (Function.update stages thread .marked other).rank = 0 := by
    intro other hother
    rw [Function.update_of_ne hother]
    exact hnobody other
  have hmarked : ∀ other, (Function.update stages thread .marked other).rank ≤ 1 := by
    intro other
    by_cases hother : other = thread
    · rw [hother, Function.update_self]
      exact Nat.le_refl _
    · rw [honly other hother]
      exact Nat.zero_le _
  have hunfinished : ∀ other, Function.update stages thread .marked other ≠ .finished := by
    intro other hfinished
    have hrank := hmarked other
    rw [hfinished] at hrank
    exact absurd hrank (by decide)
  refine ⟨?_, ?_, ?_, ?_, ?_, ?_, ?_⟩
  · intro first second hfirst hsecond
    have hsame : ∀ other, 0 < (Function.update stages thread .marked other).rank →
        other = thread := by
      intro other hpos
      by_contra hother
      rw [honly other hother] at hpos
      exact Nat.lt_irrefl _ hpos
    rw [hsame first hfirst, hsame second hsecond]
  · simp only [hclosed, true_iff]
    refine ⟨thread, ?_⟩
    rw [Function.update_self]
    exact Nat.one_pos
  · exact fun _ _ => hclosed
  · exact fun other hrank => absurd (Nat.le_trans hrank (hmarked other)) (by decide)
  · exact fun other hrank => absurd (Nat.le_trans hrank (hmarked other)) (by decide)
  · exact fun other hfinished => absurd hfinished (hunfinished other)
  · intro _
    rw [hlink]
    apply hclosing.unfinished
    intro other hfinished
    have hrank := hnobody other
    rw [hfinished] at hrank
    cases hrank

/-- The only one on the way to the end takes its next step. -/
theorem goOn (hclosing : Closing machine stages) {stage : CloseStage}
    (hown : 0 < (stages thread).rank) (hearlier : stages thread ≠ .finished)
    (hrank : 0 < stage.rank) (hclosed : next.session.closed = machine.session.closed)
    (hstopped : 2 ≤ stage.rank → next.session.state = .stopped)
    (hjoined : 3 ≤ stage.rank → next.session.phase = .exited)
    (hlink : next.linkCloses = machine.linkCloses + if stage = .finished then 1 else 0) :
    Closing next (Function.update stages thread stage) := by
  have honly : ∀ other, other ≠ thread → (stages other).rank = 0 := by
    intro other hother
    by_contra hpos
    exact hother (hclosing.unique other thread (Nat.pos_of_ne_zero hpos) hown)
  have hsame : ∀ other, 0 < (Function.update stages thread stage other).rank → other = thread := by
    intro other hpos
    by_contra hother
    rw [Function.update_of_ne hother, honly other hother] at hpos
    exact Nat.lt_irrefl _ hpos
  have hnone : machine.linkCloses = 0 := by
    apply hclosing.unfinished
    intro other hfinished
    by_cases hother : other = thread
    · exact hearlier (hother ▸ hfinished)
    · have hidle := honly other hother
      rw [hfinished] at hidle
      cases hidle
  have hopen : machine.session.closed = true := hclosing.closed.mpr ⟨thread, hown⟩
  rw [hnone, Nat.zero_add] at hlink
  refine ⟨?_, ?_, ?_, ?_, ?_, ?_, ?_⟩
  · intro first second hfirst hsecond
    rw [hsame first hfirst, hsame second hsecond]
  · rw [hclosed, hopen, eq_self, true_iff]
    refine ⟨thread, ?_⟩
    rw [Function.update_self]
    exact hrank
  · intro _ _
    rw [hclosed, hopen]
  · intro other hlate
    rw [hsame other (Nat.lt_of_lt_of_le Nat.two_pos hlate), Function.update_self] at hlate
    exact hstopped hlate
  · intro other hlate
    rw [hsame other (Nat.lt_of_lt_of_le (Nat.succ_pos 2) hlate), Function.update_self] at hlate
    exact hjoined hlate
  · intro other hfinished
    have hother := hsame other (by rw [hfinished]; decide)
    rw [hother, Function.update_self] at hfinished
    rw [hlink, if_pos hfinished]
  · intro hunfinished
    have hthread := hunfinished thread
    rw [Function.update_self] at hthread
    rw [hlink, if_neg hthread]

end Closing

theorem record_linkCloses (machine : Machine H β) (thread : Nat) (op : Op) :
    (machine.record thread op).linkCloses =
      machine.linkCloses + if op = .closeTransport then 1 else 0 := by
  cases op <;> simp [record]

namespace Closing

variable {op : Op} {rest : op.Reply → Program (Except CallError Reply)} {reply : op.Reply}
  {session : Session H β} {link : Except TransportError Unit}

theorem performed {call : Call} (hclosing : Closing machine stages)
    (hallows : (stages thread).Allows call op)
    (hexec : op.exec machine.now link machine.session = some (reply, session)) :
    Closing { machine.record thread op with
        session, threads := machine.threads.set thread (rest reply) }
      (Function.update stages thread ((stages thread).next op reply)) := by
  have hframe := Op.exec_frame hexec
  have hclosed : session.closed = (machine.session.closed || decide (op = .swapClosed)) := by
    rw [hframe]
  have hstate : session.state = op.onState machine.session.state := by rw [hframe]
  have hphase : session.phase = machine.session.phase := by rw [hframe]
  have hlink := machine.record_linkCloses thread op
  have hlasts : op ≠ .swapClosed ∨ machine.session.closed = true → op ≠ .closeTransport →
      machine.Lasts { machine.record thread op with
        session, threads := machine.threads.set thread (rest reply) } := by
    intro hswap hclose
    refine ⟨?_, ?_, ?_, ?_⟩
    · change session.closed = _
      rw [hclosed]
      rcases hswap with hop | hbefore
      · simp [hop]
      · simp [hbefore]
    · intro hstopped
      exact hstate.trans (Op.onState_eq_stopped_iff.mpr hstopped)
    · exact fun hexited => hphase.trans hexited
    · change (machine.record thread op).linkCloses = _
      rw [hlink, if_neg hclose, Nat.add_zero]
  cases op with
  | swapClosed =>
      have hreply : machine.session.closed = reply := congrArg Prod.fst (Option.some.inj hexec)
      cases reply with
      | true => exact hclosing.comeLate hallows.2 hreply (hlasts (.inr hreply) (by simp))
      | false =>
          refine hclosing.comeFirst hreply ?_ rfl
          change session.closed = true
          simp [hclosed]
  | awaitStopped =>
      obtain ⟨hstopped, _⟩ := Option.ite_none_right_eq_some.mp hexec
      have hsame := hlasts (.inl (by simp)) (by simp)
      change Closing _ (Function.update stages thread .stopped)
      apply hclosing.goOn
      · rw [hallows]
        decide
      · rw [hallows]
        decide
      · decide
      · exact hsame.closed
      · exact fun _ => hsame.stopped hstopped
      · exact fun hrank => absurd hrank (by decide)
      · exact hlink
  | joinRouter =>
      obtain ⟨hexited, _⟩ := Option.ite_none_right_eq_some.mp hexec
      have hsame := hlasts (.inl (by simp)) (by simp)
      change Closing _ (Function.update stages thread .joined)
      apply hclosing.goOn
      · rw [hallows]
        decide
      · rw [hallows]
        decide
      · decide
      · exact hsame.closed
      · exact fun _ => hsame.stopped (hclosing.stopped thread (by rw [hallows]; decide))
      · exact fun _ => hsame.exited hexited
      · exact hlink
  | closeTransport =>
      have hrank : 3 ≤ (stages thread).rank := by
        rw [hallows]
        decide
      change Closing _ (Function.update stages thread .finished)
      apply hclosing.goOn
      · exact Nat.lt_of_lt_of_le (Nat.succ_pos 2) hrank
      · rw [hallows]
        decide
      · decide
      · simpa using hclosed
      · exact fun _ => hstate.trans (hclosing.stopped thread (Nat.le_of_succ_le hrank))
      · exact fun _ => hphase.trans (hclosing.joined thread hrank)
      · exact hlink
  | _ =>
      rw [show (stages thread).next _ reply = stages thread from rfl, Function.update_eq_self]
      exact hclosing.lasts (hlasts (.inl (by simp)) (by simp))

end Closing

/-- The router is gone, and the link was closed once. -/
structure ShutDown (machine : Machine H β) : Prop where
  state : machine.session.state = .stopped
  phase : machine.session.phase = .exited
  link : machine.linkCloses = 1

theorem Closing.shutDown (hclosing : Closing machine stages)
    (hfinished : stages thread = .finished) : machine.ShutDown := by
  have hrank : (stages thread).rank = 4 := by rw [hfinished]; rfl
  refine ⟨hclosing.stopped thread ?_, hclosing.joined thread ?_, hclosing.finished thread hfinished⟩
  · rw [hrank]
    decide
  · rw [hrank]
    decide

variable [DecidableEq β] {config : Config} {events : List (Event H β)}

/-- Whatever else happens, nobody takes a step towards the end. -/
theorem lasts_of_step (hstep : machine.step event = some next)
    (hother : ∀ performer link, event ≠ .perform performer link) : machine.Lasts next := by
  cases event with
  | perform performer link => exact absurd rfl (hother performer link)
  | begin | tick | setCancel | installCancel | setTable =>
      cases hstep
      exact ⟨rfl, id, id, rfl⟩
  | requestStop =>
      cases hstep
      exact ⟨rfl, Session.requestStop_state_eq_stopped_iff.mpr, id, rfl⟩
  | route message =>
      obtain ⟨_, heq⟩ := Option.ite_none_right_eq_some.mp hstep
      cases heq
      refine ⟨?_, ?_, ?_, rfl⟩
      · change (machine.session.route message).2.closed = _
        rw [Session.route_frame]
      · change _ → (machine.session.route message).2.state = _
        rw [Session.route_frame]
        exact id
      · change _ → (machine.session.route message).2.phase = _
        rw [Session.route_frame]
        exact id
  | leave | endRequests =>
      obtain ⟨hphase, heq⟩ := Option.ite_none_right_eq_some.mp hstep
      cases heq
      constructor <;> simp [Session.markStopped, Session.endRequests, hphase]
  | endTransfers =>
      obtain ⟨hphase, heq⟩ := Option.ite_none_right_eq_some.mp hstep
      cases heq
      constructor <;> simp [Session.endTransfers]

theorem Closing.step (hclosing : Closing machine stages)
    (hconducted : Conducted closeConduct config events machine stages)
    (hstep : machine.step event = some next)
    (hadvances : Advances closeConduct machine stages event next later) : Closing next later := by
  cases hadvances with
  | begun call onRouter =>
      rw [show closeConduct.enter call = closeConduct.idle from rfl, hconducted.update_idle]
      exact hclosing.lasts (lasts_of_step hstep (by simp))
  | performed hthread hexec =>
      obtain ⟨_, _, hallows, _⟩ := hconducted.allows hthread
      exact hclosing.performed hallows hexec
  | routed message => exact hclosing.lasts (lasts_of_step hstep (by simp))
  | changed _ hperform => exact hclosing.lasts (lasts_of_step hstep hperform)

/-- Only calls that close the session take part in its end. -/
theorem closer_step
    (hclosers : ∀ thread, stages thread ≠ .outside → (calls events)[thread]? = some .close)
    (hconducted : Conducted closeConduct config events machine stages)
    (hadvances : Advances closeConduct machine stages event next later) (thread : Nat)
    (hinside : later thread ≠ .outside) : (calls (events ++ [event]))[thread]? = some .close := by
  suffices hbefore : (calls events)[thread]? = some .close by
    rw [calls_concat, List.getElem?_append_left (List.getElem?_eq_some_iff.mp hbefore).1]
    exact hbefore
  cases hadvances with
  | begun call onRouter =>
      rw [show closeConduct.enter call = closeConduct.idle from rfl,
        hconducted.update_idle] at hinside
      exact hclosers thread hinside
  | @performed performer link op rest reply session hthread hexec =>
      obtain ⟨call, hcall, hallows, _⟩ := hconducted.allows hthread
      by_cases hother : thread = performer
      · subst hother
        by_cases hout : stages thread = .outside
        · -- Who has not taken part so far does so only by marking the session closed.
          rw [Function.update_self] at hinside
          cases op with
          | swapClosed =>
              rw [hcall]
              exact congrArg some hallows.1
          | raiseStop | markStopping | awaitStopped | joinRouter | closeTransport =>
              cases hout.symm.trans hallows
          | _ => exact absurd hout hinside
        · exact hclosers thread hout
      · rw [Function.update_of_ne hother] at hinside
        exact hclosers thread hinside
  | routed | changed => exact hclosers thread hinside

theorem exists_closing (hrun : (start config).run events = some machine) :
    ∃ stages, Conducted closeConduct config events machine stages ∧ Closing machine stages ∧
      ∀ thread, stages thread ≠ .outside → (calls events)[thread]? = some .close := by
  refine Conducted.run (Call.closes config) (fun events machine stages =>
    Closing machine stages ∧
      ∀ thread, stages thread ≠ .outside → (calls events)[thread]? = some .close)
    (.fresh closeConduct config) ⟨.fresh config, fun _ hinside => absurd rfl hinside⟩ ?_ hrun
  rintro earlier middle event next current later _ hconducted ⟨hclosing, hclosers⟩ hlater hadvances
  have hstep := step_of_reached hconducted.reached hlater.reached
  exact ⟨hclosing.step hconducted hstep hadvances, closer_step hclosers hconducted hadvances⟩

/-- Who is on the way to the end has not returned yet, or everything is done. -/
theorem Closing.shutDown_or_inProgress (hclosing : Closing machine stages)
    (hconducted : Conducted closeConduct config events machine stages)
    (hcall : (calls events)[thread]? = some .close) (hrank : 0 < (stages thread).rank) :
    machine.ShutDown ∨ machine.InProgress thread := by
  have hlt : thread < machine.threads.length := by
    rw [hconducted.length]
    exact (List.getElem?_eq_some_iff.mp hcall).1
  rcases inProgress_or_result hlt with hprogress | ⟨result, hresult⟩
  · exact .inr hprogress
  · rcases hconducted.ends hcall hresult with ⟨hout, _⟩ | ⟨_, hlate | hfinished⟩
    · rw [hout] at hrank
      cases hrank
    · rw [hlate] at hrank
      cases hrank
    · exact .inl (hclosing.shutDown hfinished)

/-- A call that closes a session and succeeds leaves it shut down, unless another such call is still
on its way there. In either case the link is closed at most once. -/
theorem run_closes_once (config : Config) (events : List (Event H β)) (machine : Machine H β)
    (hrun : (start config).run events = some machine) :
    machine.linkCloses ≤ 1 ∧
      ∀ thread reply, (calls events)[thread]? = some .close →
        machine.result? thread = some (.ok reply) →
        machine.ShutDown ∨ ∃ other, other ≠ thread ∧ (calls events)[other]? = some .close ∧
          machine.InProgress other := by
  obtain ⟨stages, hconducted, hclosing, hclosers⟩ := exists_closing hrun
  constructor
  · by_cases hfinished : ∃ thread, stages thread = .finished
    · obtain ⟨thread, hthread⟩ := hfinished
      exact Nat.le_of_eq (hclosing.finished thread hthread)
    · rw [hclosing.unfinished (not_exists.mp hfinished)]
      exact Nat.zero_le 1
  · intro thread reply hcall hresult
    rcases hconducted.ends hcall hresult with ⟨_, hfails⟩ | ⟨_, hlate | hfinished⟩
    · obtain ⟨_, herror⟩ := hfails rfl
      cases herror
    · obtain ⟨other, hother⟩ := hclosing.closed.mp (hclosing.late thread hlate)
      have hinside : stages other ≠ .outside := by
        intro hout
        rw [hout] at hother
        cases hother
      have hclose := hclosers other hinside
      rcases hclosing.shutDown_or_inProgress hconducted hclose hother with hdone | hprogress
      · exact .inl hdone
      · exact .inr ⟨other, ne_of_inProgress hresult hprogress, hclose, hprogress⟩
    · exact .inl (hclosing.shutDown hfinished)

/-- A second call finds the session marked closed before the router has stopped. -/
def closedTwice : List (Event Unit Unit) :=
  [.begin .close false, .begin .close false, .perform 0 (.ok ()), .perform 1 (.ok ())]

/-- It returns at once, while the router still runs and the link is open. -/
theorem running_after_close :
    ∃ machine : Machine Unit Unit, (start {}).run closedTwice = some machine ∧
      machine.result? 1 = some (.ok .done) ∧ machine.session.state = .running ∧
      machine.linkCloses = 0 := by
  have hend : ((start {} : Machine Unit Unit).run closedTwice).map (fun machine =>
      (machine.result? 1, machine.session.state, machine.linkCloses)) =
      some (some (.ok .done), .running, 0) := by
    decide +kernel
  obtain ⟨machine, hrun, hmachine⟩ := Option.map_eq_some_iff.mp hend
  simp only [Prod.mk.injEq] at hmachine
  exact ⟨machine, hrun, hmachine⟩

end Machine

end AntHost
