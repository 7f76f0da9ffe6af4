import AntHost.Bench.Play
import AntHost.Proofs.Session.Blocks
import AntHost.Proofs.Session.Threads
import Mathlib.Data.List.Perm.Subperm
/-!
# Rigs and machines

A rig runs calls by a schedule of its own. A machine mirrors it if both are at the same session and
the same time, every call in progress on the rig is one of the machine's threads, and whatever was
answered and seen on the rig has happened on the machine.
-/

namespace AntHost

/-! ## Operations and the deframer -/

section Deframer

variable {H β : Type} {op : Op} {reply : op.Reply} {session next : Session H β} {now : Nat}
  {written : Except TransportError Unit}

/-- No operation knows of the deframer. -/
theorem Op.exec_deframer (deframer : Deframer)
    (hexec : op.exec now written { session with deframer } = some (reply, next)) :
    ∃ after, op.exec now written session = some (reply, after) ∧
      next = { after with deframer } := by
  cases op with
  | awaitResponse | beginTransfer | awaitOutcome =>
      obtain ⟨result, hcheck, heq⟩ := Option.map_eq_some_iff.mp hexec
      cases heq
      exact ⟨_, Option.map_eq_some_iff.mpr ⟨_, hcheck, rfl⟩, rfl⟩
  | awaitStopped | joinRouter =>
      rw [exec] at hexec
      split at hexec
      next hover =>
        cases hexec
        exact ⟨session, if_pos hover, rfl⟩
      next => cases hexec
  | _ =>
      cases hexec
      exact ⟨_, rfl, rfl⟩

variable [DecidableEq β]

namespace Session

theorem deliver_deframer (session : Session H β) (deframer : Deframer) (slot? : Option (Slot H β))
    (channel code : UInt8) (data : List UInt8) :
    { session with deframer }.deliver slot? channel code data =
      ((session.deliver slot? channel code data).1,
        { (session.deliver slot? channel code data).2 with deframer }) := by
  cases slot? <;> rfl

theorem offerResponse_deframer (session : Session H β) (deframer : Deframer)
    (messageId channel code : UInt8) (message : Message) :
    { session with deframer }.offerResponse messageId channel code message =
      ((session.offerResponse messageId channel code message).1,
        { (session.offerResponse messageId channel code message).2 with deframer }) := by
  rw [offerResponse, offerResponse]
  rcases session.tracker.offer messageId channel message with ⟨_ | _, tracker⟩
  · exact session.deliver_deframer deframer ..
  · rfl

/-- Neither does routing. -/
theorem route_deframer (session : Session H β) (deframer : Deframer) (message : Message) :
    { session with deframer }.route message =
      ((session.route message).1, { (session.route message).2 with deframer }) := by
  rw [route, route]
  cases message.route? with
  | none => rfl
  | some route =>
      cases route with
      | response | other => exact session.offerResponse_deframer deframer ..
      | channelEvent channel code =>
          exact deliver_deframer
            { session with transfer := session.transfer.onEvent channel code } deframer ..
      | data => exact session.deliver_deframer deframer ..

end Session

end Deframer

/-! ## What stays of a machine -/

namespace Machine

variable {H β : Type} {before middle after machine next : Machine H β}

/-- What is still there of a machine whatever happens later. -/
structure Outlives (before after : Machine H β) : Prop where
  returned : ∀ result, Program.done result ∈ before.threads → Program.done result ∈ after.threads
  writes : before.writes ⊆ after.writes
  linkCloses : before.linkCloses ≤ after.linkCloses
  session : before.session.Ages after.session

namespace Outlives

theorem refl (machine : Machine H β) : machine.Outlives machine :=
  ⟨fun _ => id, List.Subset.refl _, Nat.le_refl _, .refl _⟩

theorem trans (hfirst : before.Outlives middle) (hsecond : middle.Outlives after) :
    before.Outlives after where
  returned result hbefore := hsecond.returned result (hfirst.returned result hbefore)
  writes := List.Subset.trans hfirst.writes hsecond.writes
  linkCloses := Nat.le_trans hfirst.linkCloses hsecond.linkCloses
  session := hfirst.session.trans hsecond.session

end Outlives

theorem linkCloses_le_record (machine : Machine H β) (thread : Nat) (op : Op) :
    machine.linkCloses ≤ (machine.record thread op).linkCloses := by
  cases op with
  | closeTransport => exact Nat.le_succ _
  | _ => exact Nat.le_refl _

variable [DecidableEq β]

/-- An event takes back no result, no frame and no end of the link. -/
theorem step_outlives {event : Event H β} (hstep : machine.step event = some next) :
    machine.Outlives next := by
  have hages := step_ages hstep
  cases event with
  | begin call onRouter =>
      cases hstep
      exact ⟨fun _ => List.mem_append_left _, List.Subset.refl _, Nat.le_refl _, hages⟩
  | perform thread written =>
      obtain ⟨op, rest, reply, session, hthread, _, rfl⟩ := exists_of_step_perform hstep
      refine ⟨fun result hresult => ?_, ?_, machine.linkCloses_le_record thread op, hages⟩
      · obtain ⟨place, hplace⟩ := List.mem_iff_getElem?.mp hresult
        have hother : thread ≠ place := by
          rintro rfl
          cases hthread.symm.trans hplace
        exact List.mem_iff_getElem?.mpr ⟨place, (List.getElem?_set_ne hother).trans hplace⟩
      · intro entry hentry
        change entry ∈ (machine.record thread op).writes
        rw [writes_record]
        exact List.mem_append_left _ hentry
  | route | leave | endRequests | endTransfers =>
      rw [step] at hstep
      split at hstep
      next =>
        cases hstep
        exact ⟨fun _ => id, List.Subset.refl _, Nat.le_refl _, hages⟩
      next => cases hstep
  | tick | setCancel | installCancel | setTable | requestStop =>
      cases hstep
      exact ⟨fun _ => id, List.Subset.refl _, Nat.le_refl _, hages⟩

theorem Reaches.outlives (hreaches : machine.Reaches next) : machine.Outlives next := by
  obtain ⟨events, hrun⟩ := hreaches
  induction events generalizing machine with
  | nil =>
      cases hrun
      exact .refl _
  | cons event rest ih =>
      obtain ⟨middle, hstep, hrest⟩ := Option.bind_eq_some_iff.mp hrun
      exact (step_outlives hstep).trans (ih hrest)

theorem Reaches.of_step {event : Event H β} (hstep : machine.step event = some next) :
    machine.Reaches next :=
  ⟨[event], by rw [run, hstep]; rfl⟩

end Machine

/-! ## Mirroring -/

namespace Bench

/-- What an answer says of a machine: calls have returned on it, the router's state is no earlier,
and the settings are its own. -/
def Answer.HoldsOn (machine : Machine Recipient Nat) : Answer → Prop
  | .call result => Program.done result ∈ machine.threads
  | .state found => found.rank ≤ machine.session.state.rank
  | .config found => machine.session.config = found
  | .received _ | .flag _ | .nothing | .noSession | .stalled => True

/-- What was seen has happened on a machine: frames were handed to its link, which may have been
closed. What happens outside of it, it does not know of. -/
def Entry.HoldsOn (machine : Machine Recipient Nat) : Entry → Prop
  | .written frame => ∃ thread, (thread, frame) ∈ machine.writes
  | .linkClosed => 0 < machine.linkCloses
  | .handlerAnswer answer => answer.HoldsOn machine
  | .called .. | .usb _ => True

theorem Answer.holdsOn_later (answer : Answer) {machine later : Machine Recipient Nat}
    (hanswer : answer.HoldsOn machine) (hreaches : machine.Reaches later) :
    answer.HoldsOn later := by
  have houtlives := hreaches.outlives
  cases answer with
  | call result => exact houtlives.returned result hanswer
  | state found => exact Nat.le_trans hanswer houtlives.session.state
  | config found => exact houtlives.session.config.trans hanswer
  | _ => trivial

theorem Entry.holdsOn_later (entry : Entry) {machine later : Machine Recipient Nat}
    (hentry : entry.HoldsOn machine) (hreaches : machine.Reaches later) : entry.HoldsOn later := by
  have houtlives := hreaches.outlives
  cases entry with
  | written frame =>
      obtain ⟨thread, hwrite⟩ := hentry
      exact ⟨thread, houtlives.writes hwrite⟩
  | linkClosed => exact Nat.lt_of_lt_of_le hentry houtlives.linkCloses
  | handlerAnswer answer => exact answer.holdsOn_later hentry hreaches
  | _ => trivial

/-- What is left of the call that a thread is in. -/
def Thread.program? : Thread → Option (Program (Except CallError Reply))
  | writing rest | waiting rest => some rest
  | ended _ => none

namespace Rig

/-- The calls in progress on the threads of a rig. -/
def programs (rig : Rig) : List (Program (Except CallError Reply)) :=
  rig.threads.values.filterMap Thread.program?

end Rig

/-- A machine is where a rig is, and some programs are threads of it besides the rig's own. -/
structure Mirrors (machine : Machine Recipient Nat)
    (aside : List (Program (Except CallError Reply))) (rig : Rig) : Prop where
  /-- Deframing is not the machine's business. -/
  session : rig.session = { machine.session with deframer := rig.session.deframer }
  now : rig.now = machine.now
  distinct : rig.threads.Distinct
  /-- Each program has a thread of its own. -/
  programs : (aside ++ rig.programs).Subperm machine.threads
  answers : ∀ answer, Thread.ended answer ∈ rig.threads.values → answer.HoldsOn machine
  seen : ∀ entry ∈ rig.seen, entry.HoldsOn machine

namespace Mirrors

variable {machine later : Machine Recipient Nat} {aside : List (Program (Except CallError Reply))}
  {rig next : Rig}

theorem phase (hmirrors : Mirrors machine aside rig) :
    machine.session.phase = rig.session.phase := by
  rw [hmirrors.session]

theorem state (hmirrors : Mirrors machine aside rig) :
    machine.session.state = rig.session.state := by
  rw [hmirrors.session]

theorem config (hmirrors : Mirrors machine aside rig) :
    machine.session.config = rig.session.config := by
  rw [hmirrors.session]

/-- A machine does not see what a rig keeps besides its session, clock, threads and entries. -/
theorem congr (hmirrors : Mirrors machine aside rig) (hsession : next.session = rig.session)
    (hnow : next.now = rig.now) (hthreads : next.threads = rig.threads)
    (hseen : ∀ entry ∈ next.seen, entry ∈ rig.seen ∨ entry.HoldsOn machine) :
    Mirrors machine aside next where
  session := by rw [hsession, ← hmirrors.session]
  now := hnow.trans hmirrors.now
  distinct := hthreads ▸ hmirrors.distinct
  programs := by
    rw [Rig.programs, hthreads]
    exact hmirrors.programs
  answers := hthreads ▸ hmirrors.answers
  seen entry hentry := (hseen entry hentry).elim (hmirrors.seen entry) id

/-- The machine may go on with anything that leaves its threads alone. -/
theorem follow (hmirrors : Mirrors machine aside rig) (hreaches : machine.Reaches later)
    (hsession : next.session = { later.session with deframer := next.session.deframer })
    (hnow : next.now = later.now) (hthreads : next.threads = rig.threads)
    (hprograms : later.threads = machine.threads) (hseen : next.seen = rig.seen) :
    Mirrors later aside next where
  session := hsession
  now := hnow
  distinct := hthreads ▸ hmirrors.distinct
  programs := by
    rw [Rig.programs, hthreads, hprograms]
    exact hmirrors.programs
  answers answer hanswer :=
    answer.holdsOn_later (hmirrors.answers answer (hthreads ▸ hanswer)) hreaches
  seen entry hentry := entry.holdsOn_later (hmirrors.seen entry (hseen ▸ hentry)) hreaches

/-- Programs may be forgotten. -/
theorem forget {fewer : List (Program (Except CallError Reply))}
    (hmirrors : Mirrors machine aside rig) (hfewer : fewer.Sublist aside) :
    Mirrors machine fewer rig :=
  { hmirrors with programs := (hfewer.append_right _).subperm.trans hmirrors.programs }

/-- A call that has returned has returned on the machine. -/
theorem mem_threads {program : Program (Except CallError Reply)}
    (hmirrors : Mirrors machine (program :: aside) rig) : program ∈ machine.threads :=
  hmirrors.programs.subset List.mem_cons_self

end Mirrors

namespace Rig

/-- Whatever mirrors a rig can go on to mirror the next one, and what is answered holds then. -/
def Leads (rig : Rig) (answer : Answer) (next : Rig) : Prop :=
  ∀ machine aside, Mirrors machine aside rig →
    ∃ later, machine.Reaches later ∧ Mirrors later aside next ∧ answer.HoldsOn later

/-- A rig leads to the next one while the router stays where it is. -/
structure Stays (rig : Rig) (answer : Answer) (next : Rig) : Prop where
  leads : rig.Leads answer next
  phase : next.session.phase = rig.session.phase

variable {rig middle next : Rig} {first second : Answer}

theorem Leads.refl (rig : Rig) : rig.Leads .nothing rig :=
  fun machine _ hmirrors => ⟨machine, .refl machine, hmirrors, trivial⟩

theorem Leads.trans (hfirst : rig.Leads first middle) (hsecond : middle.Leads second next) :
    rig.Leads second next := by
  intro machine aside hmirrors
  obtain ⟨between, hbetween, hmiddle, _⟩ := hfirst machine aside hmirrors
  obtain ⟨later, hlater, hnext, hanswer⟩ := hsecond between aside hmiddle
  exact ⟨later, hbetween.trans hlater, hnext, hanswer⟩

/-- What only a rig knows of is none of a machine's business. -/
theorem Leads.of_same (hsession : next.session = rig.session) (hnow : next.now = rig.now)
    (hthreads : next.threads = rig.threads)
    (hseen : ∀ entry ∈ next.seen, entry ∈ rig.seen ∨ ∀ machine, entry.HoldsOn machine) :
    rig.Leads .nothing next := by
  intro machine aside hmirrors
  refine ⟨machine, .refl machine, hmirrors.congr hsession hnow hthreads ?_, trivial⟩
  exact fun entry hentry => (hseen entry hentry).imp_right fun hholds => hholds machine

/-- An answer may tell what holds of any machine that mirrors a rig. -/
theorem Leads.answer {answer : Answer} (hleads : rig.Leads first next)
    (hanswer : ∀ machine aside, Mirrors machine aside next → answer.HoldsOn machine) :
    rig.Leads answer next := by
  intro machine aside hmirrors
  obtain ⟨later, hreaches, hnext, _⟩ := hleads machine aside hmirrors
  exact ⟨later, hreaches, hnext, hanswer later aside hnext⟩

/-- A change of the session that needs no thread. -/
theorem Leads.of_change (change : Session Recipient Nat → Session Recipient Nat)
    (events : List (Event Recipient Nat))
    (hrun : ∀ machine : Machine Recipient Nat, machine.session.phase = rig.session.phase →
      machine.run events = some { machine with session := change machine.session })
    (hdeframer : ∀ (session : Session Recipient Nat) deframer,
      change { session with deframer } = { change session with deframer })
    (hsession : next.session = change rig.session) (hnow : next.now = rig.now)
    (hthreads : next.threads = rig.threads) (hseen : next.seen = rig.seen) :
    rig.Leads .nothing next := by
  intro machine aside hmirrors
  have hlater : machine.Reaches _ := ⟨events, hrun machine hmirrors.phase⟩
  have hclock : next.now = machine.now := hnow.trans hmirrors.now
  refine ⟨_, hlater, hmirrors.follow hlater ?_ hclock hthreads rfl hseen, trivial⟩
  rw [hsession, hmirrors.session, hdeframer]

theorem Stays.refl (rig : Rig) : rig.Stays .nothing rig := ⟨.refl rig, rfl⟩

theorem Stays.trans (hfirst : rig.Stays first middle) (hsecond : middle.Stays second next) :
    rig.Stays second next :=
  ⟨hfirst.leads.trans hsecond.leads, hsecond.phase.trans hfirst.phase⟩

theorem Stays.of_same (hsession : next.session = rig.session) (hnow : next.now = rig.now)
    (hthreads : next.threads = rig.threads) (hseen : next.seen = rig.seen) :
    rig.Stays .nothing next :=
  ⟨.of_same hsession hnow hthreads fun _ hentry => .inl (hseen ▸ hentry), by rw [hsession]⟩

end Rig

end Bench

end AntHost
