import AntHost.Proofs.Bench.Mirror
/-!
# Threads of rigs and machines

An operation that a rig performs is one that the machine's thread performs, after the device has had
its way with the cancel flag. So a call that goes on, on a thread of the rig or on the router's,
takes the machine to where the rig is.
-/

namespace AntHost.Bench

/-- What an operation that reaches the link lets see. -/
def Shows (op : Op) : Entry → Prop
  | .written frame => op = .write frame
  | .linkClosed => op = .closeTransport
  | .called .. | .handlerAnswer _ | .usb _ => False

namespace Rig

variable {rig middle next : Rig} {op : Op}

/-! ## The link -/

/-- What an operation that reaches the link can change: the device may set the cancel flag. -/
structure HandsOver (op : Op) (rig next : Rig) : Prop where
  session : next.session = { rig.session with cancelRaised := next.session.cancelRaised }
  now : next.now = rig.now
  threads : next.threads = rig.threads
  seen : ∀ entry ∈ next.seen, entry ∈ rig.seen ∨ Shows op entry

namespace HandsOver

theorem refl (op : Op) (rig : Rig) : HandsOver op rig rig := ⟨rfl, rfl, rfl, fun _ => .inl⟩

theorem trans (hfirst : HandsOver op rig middle) (hsecond : HandsOver op middle next) :
    HandsOver op rig next where
  session := by rw [hsecond.session, hfirst.session]
  now := hsecond.now.trans hfirst.now
  threads := hsecond.threads.trans hfirst.threads
  seen entry hentry := (hsecond.seen entry hentry).elim (hfirst.seen entry) .inr

end HandsOver

theorem present_handsOver (rig : Rig) (frame : List UInt8) :
    HandsOver (.write frame) rig (rig.present frame).2 where
  session := rfl
  now := rfl
  threads := rfl
  seen entry hentry := by
    refine (List.mem_append.mp hentry).imp_right fun hnew => ?_
    cases List.mem_singleton.mp hnew
    exact rfl

theorem presentChunk_handsOver (attempts : Nat) (frame chunk : List UInt8) (rig : Rig) :
    HandsOver (.write frame) rig (rig.presentChunk attempts frame chunk).2 := by
  induction attempts generalizing rig with
  | zero => exact .refl _ rig
  | succ attempts ih =>
      have hpresent := rig.present_handsOver frame
      rw [presentChunk]
      split
      next hresult => rwa [hresult] at hpresent
      next fault later hresult =>
        rw [hresult] at hpresent
        split
        · exact hpresent.trans (ih later)
        · exact hpresent
      next hresult => rwa [hresult] at hpresent

theorem handOver_handsOver (rig : Rig) (op : Op) : HandsOver op rig (rig.handOver op).2 := by
  cases op with
  | write frame =>
      rw [handOver, transmit]
      split
      next => exact rig.present_handsOver frame
      next =>
        split
        · exact .refl _ rig
        · exact presentChunk_handsOver _ frame _ rig
  | closeTransport =>
      rw [handOver, closeCarrier]
      split
      next =>
        refine ⟨rfl, rfl, rfl, fun entry hentry => ?_⟩
        refine (List.mem_append.mp hentry).imp_right fun hnew => ?_
        cases List.mem_singleton.mp hnew
        exact rfl
      next => exact .refl _ rig
      next => exact ⟨rfl, rfl, rfl, fun _ => .inl⟩
  | _ => exact .refl _ rig

end Rig

/-! ## Operations -/

/-- One of some threads that contain some programs has the first of them, and may go on while the
others stay. -/
theorem exists_place {α : Type} {program : α} {programs threads : List α}
    (hamong : (program :: programs).Subperm threads) :
    ∃ place, threads[place]? = some program ∧
      ∀ later, (later :: programs).Subperm (threads.set place later) := by
  obtain ⟨before, after, rfl⟩ := List.append_of_mem (hamong.subset List.mem_cons_self)
  have hrest : programs.Subperm (before ++ after) :=
    (List.subperm_cons program).mp (hamong.trans List.perm_middle.subperm)
  refine ⟨before.length, by simp, fun later => ?_⟩
  rw [List.set_append_right _ _ (Nat.le_refl _), Nat.sub_self, List.set_cons_zero]
  exact ((List.subperm_cons later).mpr hrest).trans List.perm_middle.symm.subperm

variable {machine : Machine Recipient Nat} {aside : List (Program (Except CallError Reply))}
  {rig next : Rig} {op : Op}

/-- An operation that is performed reaches the link, if it can, and then the session. -/
theorem Rig.exists_of_perform {reply : op.Reply} (hperform : rig.perform op = some (reply, next)) :
    ∃ written given session, HandsOver op rig given ∧
      op.exec given.now written given.session = some (reply, session) ∧
      next = { given with session } := by
  have hgiven := rig.handOver_handsOver op
  rw [perform] at hperform
  generalize rig.handOver op = result at hgiven hperform
  obtain ⟨written, given⟩ := result
  obtain ⟨⟨_, session⟩, hexec, heq⟩ := Option.map_eq_some_iff.mp hperform
  cases heq
  exact ⟨written, given, session, hgiven, hexec, rfl⟩

theorem Rig.perform_frame {reply : op.Reply} (hperform : rig.perform op = some (reply, next)) :
    next.session.phase = rig.session.phase ∧ next.threads = rig.threads := by
  obtain ⟨written, given, session, hgiven, hexec, rfl⟩ := exists_of_perform hperform
  refine ⟨?_, hgiven.threads⟩
  rw [Op.exec_frame hexec, hgiven.session]

/-- What a rig performs, the machine performs: the cancel flag is set, then the thread goes on. -/
theorem Mirrors.perform_with {threads : KeyedList Caller Thread} {reply : op.Reply}
    {rest : op.Reply → Program (Except CallError Reply)}
    (hmirrors : Mirrors machine (.perform op rest :: aside) { rig with threads })
    (hperform : rig.perform op = some (reply, next)) :
    ∃ later, machine.Reaches later ∧ Mirrors later (rest reply :: aside) { next with threads } := by
  obtain ⟨written, given, session, hgiven, hexec, rfl⟩ := Rig.exists_of_perform hperform
  obtain ⟨place, hplace, hothers⟩ := exists_place hmirrors.programs
  let told : Machine Recipient Nat :=
    { machine with session.cancelRaised := given.session.cancelRaised }
  have htold : machine.step (.setCancel given.session.cancelRaised) = some told := rfl
  change told.threads[place]? = _ at hplace
  have hsession : given.session = { told.session with deframer := rig.session.deframer } := by
    rw [hgiven.session, hmirrors.session]
  have hnow : given.now = told.now := hgiven.now.trans hmirrors.now
  rw [hsession, hnow] at hexec
  obtain ⟨reached, hreached, rfl⟩ := Op.exec_deframer _ hexec
  have hstep := Machine.step_perform hplace hreached
  have hreaches := (Machine.Reaches.of_step htold).trans (.of_step hstep)
  refine ⟨_, hreaches, rfl, ?_, hmirrors.distinct, hothers _, ?_, ?_⟩
  · exact hnow.trans (told.now_record place op).symm
  · exact fun answer hanswer => answer.holdsOn_later (hmirrors.answers answer hanswer) hreaches
  · intro entry hentry
    refine (hgiven.seen entry hentry).elim
      (fun hold => entry.holdsOn_later (hmirrors.seen entry hold) hreaches) fun hshows => ?_
    cases entry with
    | written frame =>
        cases hshows
        exact ⟨place, List.mem_append_right _ List.mem_cons_self⟩
    | linkClosed =>
        cases hshows
        exact Nat.succ_pos _
    | _ => cases hshows

theorem Mirrors.perform {reply : op.Reply} {rest : op.Reply → Program (Except CallError Reply)}
    (hmirrors : Mirrors machine (.perform op rest :: aside) rig)
    (hperform : rig.perform op = some (reply, next)) :
    ∃ later, machine.Reaches later ∧ Mirrors later (rest reply :: aside) next := by
  have hwith : Mirrors machine (.perform op rest :: aside) { rig with threads := rig.threads } :=
    hmirrors
  obtain ⟨later, hreaches, hlater⟩ := hwith.perform_with hperform
  rw [← (Rig.perform_frame hperform).2] at hlater
  exact ⟨later, hreaches, hlater⟩

/-! ## Threads that come and go -/

namespace Mirrors

/-- A call begins on the machine. -/
theorem begin (hmirrors : Mirrors machine aside rig) (call : Call) (onRouter : Bool) :
    ∃ later, machine.Reaches later ∧
      Mirrors later (call.program rig.session.config onRouter :: aside) rig := by
  have hstep : machine.step (.begin call onRouter) = some _ := rfl
  have hreaches := Machine.Reaches.of_step hstep
  refine ⟨_, hreaches, hmirrors.session, hmirrors.now, hmirrors.distinct, ?_, ?_, ?_⟩
  · rw [hmirrors.session]
    exact ((List.subperm_cons _).mpr hmirrors.programs).trans
      (List.perm_append_singleton _ _).symm.subperm
  · exact fun answer hanswer => answer.holdsOn_later (hmirrors.answers answer hanswer) hreaches
  · exact fun entry hentry => entry.holdsOn_later (hmirrors.seen entry hentry) hreaches

/-- A rig may lose the thread of a caller. -/
theorem drop (hmirrors : Mirrors machine aside rig) (caller : Caller) :
    Mirrors machine aside { rig with threads := rig.threads.erase caller } :=
  have hfewer : (rig.threads.erase caller).values.Sublist rig.threads.values :=
    List.filter_sublist.map Prod.snd
  { hmirrors with
    distinct := hmirrors.distinct.erase caller
    programs := ((hfewer.filterMap _).append_left aside).subperm.trans hmirrors.programs
    answers := fun answer hanswer => hmirrors.answers answer (hfewer.subset hanswer) }

/-- What is left of a thread's call is set aside when the rig loses the thread. -/
theorem take {caller : Caller} {thread : Thread} {rest : Program (Except CallError Reply)}
    (hmirrors : Mirrors machine aside rig) (hthread : (caller, thread) ∈ rig.threads.entries)
    (hrest : thread.program? = some rest) :
    Mirrors machine (rest :: aside) { rig with threads := rig.threads.erase caller } := by
  have hvalues := (hmirrors.distinct.values_of_mem hthread).filterMap Thread.program?
  rw [List.filterMap_cons_some hrest] at hvalues
  refine { hmirrors.drop caller with programs := ?_ }
  exact ((hvalues.append_left aside).trans List.perm_middle).symm.subperm.trans hmirrors.programs

/-- A caller gets a thread. -/
theorem put {thread : Thread} {caller : Caller}
    (hmirrors : Mirrors machine (thread.program?.toList ++ aside)
      { rig with threads := rig.threads.erase caller })
    (hdistinct : rig.threads.Distinct)
    (hanswer : ∀ answer, thread = .ended answer → answer.HoldsOn machine) :
    Mirrors machine aside { rig with threads := rig.threads.set caller thread } := by
  have hvalues := hdistinct.values_set caller thread
  refine { hmirrors with distinct := hdistinct.set caller thread, programs := ?_, answers := ?_ }
  · have hprograms := (hvalues.filterMap Thread.program?).append_left aside
    refine hprograms.subperm.trans (.trans (List.Perm.subperm ?_) hmirrors.programs)
    cases hprogram : thread.program? with
    | none =>
        rw [List.filterMap_cons_none hprogram]
        exact .refl _
    | some program =>
        rw [List.filterMap_cons_some hprogram]
        exact List.perm_middle
  · intro answer hmem
    rcases List.mem_cons.mp (hvalues.subset hmem) with heq | hold
    · exact hanswer answer heq.symm
    · exact hmirrors.answers answer hold

end Mirrors

/-! ## Calls that go on -/

/-- A call that goes on takes the machine along, up to where the rig leaves it. -/
theorem Mirrors.advance_with {threads : KeyedList Caller Thread}
    {program : Program (Except CallError Reply)}
    (hmirrors : Mirrors machine (program :: aside) { rig with threads }) :
    ∃ later, machine.Reaches later ∧
      Mirrors later ((rig.advance program).1.program?.toList ++ aside)
        { (rig.advance program).2 with threads } ∧
      ∀ answer, (rig.advance program).1 = .ended answer → answer.HoldsOn later := by
  induction program generalizing rig machine with
  | done result =>
      refine ⟨machine, .refl machine, hmirrors.forget (List.sublist_cons_self _ _), ?_⟩
      rintro answer ⟨⟩
      exact hmirrors.mem_threads
  | perform op rest ih =>
      rw [Rig.advance]
      split
      next => exact ⟨machine, .refl machine, hmirrors, nofun⟩
      next reply next hperform =>
        obtain ⟨between, hbetween, hmiddle⟩ := hmirrors.perform_with hperform
        split
        · exact ⟨between, hbetween, hmiddle, nofun⟩
        · obtain ⟨later, hlater, hnext⟩ := ih reply hmiddle
          exact ⟨later, hbetween.trans hlater, hnext⟩

theorem Rig.advance_frame (rig : Rig) (program : Program (Except CallError Reply)) :
    (rig.advance program).2.session.phase = rig.session.phase ∧
      (rig.advance program).2.threads = rig.threads := by
  induction program generalizing rig with
  | done result => exact ⟨rfl, rfl⟩
  | perform op rest ih =>
      rw [advance]
      split
      next => exact ⟨rfl, rfl⟩
      next reply next hperform =>
        have hframe := perform_frame hperform
        split
        · exact hframe
        · exact ⟨(ih reply next).1.trans hframe.1, (ih reply next).2.trans hframe.2⟩

theorem Mirrors.advance {program : Program (Except CallError Reply)}
    (hmirrors : Mirrors machine (program :: aside) rig) :
    ∃ later, machine.Reaches later ∧
      Mirrors later ((rig.advance program).1.program?.toList ++ aside) (rig.advance program).2 := by
  have hwith : Mirrors machine (program :: aside) { rig with threads := rig.threads } := hmirrors
  obtain ⟨later, hreaches, hlater, _⟩ := hwith.advance_with
  rw [← (rig.advance_frame program).2] at hlater
  exact ⟨later, hreaches, hlater⟩

namespace Rig

theorem goOn_stays {caller : Caller} {thread : Thread} {rest : Program (Except CallError Reply)}
    (hthread : (caller, thread) ∈ rig.threads.entries) (hrest : thread.program? = some rest) :
    rig.Stays .nothing (rig.goOn caller rest) := by
  obtain ⟨hphase, hthreads⟩ := rig.advance_frame rest
  refine ⟨fun machine aside hmirrors => ?_, hphase⟩
  obtain ⟨later, hreaches, hlater, hanswer⟩ := (hmirrors.take hthread hrest).advance_with
  rw [← hthreads] at hlater
  exact ⟨later, hreaches, hlater.put (hthreads ▸ hmirrors.distinct) hanswer, trivial⟩

/-- A rig goes on with the call of one of its threads. -/
theorem exists_of_next? {caller : Caller} {rest : Program (Except CallError Reply)}
    (hnext : rig.next? = some (caller, rest)) :
    ∃ thread, (caller, thread) ∈ rig.threads.entries ∧ thread.program? = some rest := by
  rw [next?, Option.orElse_eq_orElse, Option.orElse_eq_or, Option.or_eq_some_iff] at hnext
  rcases hnext with hwriting | ⟨_, hwaiting⟩
  · obtain ⟨⟨_, thread⟩, hmem, hthread⟩ := List.exists_of_findSome?_eq_some hwriting
    cases thread with
    | writing program =>
        cases hthread
        exact ⟨_, hmem, rfl⟩
    | _ => cases hthread
  · obtain ⟨⟨_, thread⟩, hmem, hthread⟩ := List.exists_of_findSome?_eq_some hwaiting
    cases thread with
    | waiting program =>
        dsimp only at hthread
        split at hthread
        · cases hthread
          exact ⟨_, hmem, rfl⟩
        · cases hthread
    | _ => cases hthread

theorem goOnAll_stays (turns : Nat) (rig : Rig) : rig.Stays .nothing (rig.goOnAll turns) := by
  induction turns generalizing rig with
  | zero => exact .refl rig
  | succ turns ih =>
      rw [goOnAll]
      split
      next => exact .refl rig
      next caller rest hnext =>
        obtain ⟨thread, hthread, hrest⟩ := exists_of_next? hnext
        exact (goOn_stays hthread hrest).trans (ih _)

theorem waitUntil_stays (rig : Rig) (moment : Nat) : rig.Stays .nothing (rig.waitUntil moment) := by
  refine ⟨fun machine aside hmirrors => ?_, rfl⟩
  have hstep : machine.step (.tick (max rig.now moment - rig.now)) = some _ := rfl
  refine ⟨_, .of_step hstep, hmirrors.follow (.of_step hstep) hmirrors.session ?_ rfl rfl rfl,
    trivial⟩
  change max rig.now moment = machine.now + (max rig.now moment - rig.now)
  rw [← hmirrors.now, Nat.add_sub_cancel' (Nat.le_max_left ..)]

end Rig

/-! ## The router's thread -/

/-- An operation that had to wait may be performed late, while other threads go on. -/
theorem Mirrors.performLate {rest : op.Reply → Program (Except CallError Reply)} {jumps : Nat}
    (hmirrors : Mirrors machine (.perform op rest :: aside) rig) :
    ∃ later, machine.Reaches later ∧
      Mirrors later (((rig.performLate jumps op).1.map rest).toList ++ aside)
        (rig.performLate jumps op).2 := by
  induction jumps generalizing rig machine with
  | zero => exact ⟨machine, .refl machine, hmirrors.forget (List.sublist_cons_self _ _)⟩
  | succ jumps ih =>
      obtain ⟨between, hbetween, hmiddle, _⟩ :=
        (rig.goOnAll_stays Rig.turnLimit).leads machine _ hmirrors
      rw [Rig.performLate]
      split
      next reply next hperform =>
        obtain ⟨later, hlater, hnext⟩ := hmiddle.perform hperform
        exact ⟨later, hbetween.trans hlater, hnext⟩
      next =>
        split
        next => exact ⟨between, hbetween, hmiddle.forget (List.sublist_cons_self _ _)⟩
        next moment _ =>
          obtain ⟨waited, hwaited, hready, _⟩ :=
            ((rig.goOnAll Rig.turnLimit).waitUntil_stays moment).leads between _ hmiddle
          obtain ⟨later, hlater, hnext⟩ := ih hready
          exact ⟨later, (hbetween.trans hwaited).trans hlater, hnext⟩

theorem Rig.performLate_phase (jumps : Nat) (rig : Rig) (op : Op) :
    (rig.performLate jumps op).2.session.phase = rig.session.phase := by
  induction jumps generalizing rig with
  | zero => rfl
  | succ jumps ih =>
      have hphase := (rig.goOnAll_stays turnLimit).phase
      rw [performLate]
      split
      next hperform => exact (perform_frame hperform).1.trans hphase
      next =>
        split
        next => exact hphase
        next => exact (ih _).trans hphase

/-- A call on the router's thread returns on the machine what it returns on the rig. -/
theorem Mirrors.runInline {program : Program (Except CallError Reply)}
    (hmirrors : Mirrors machine (program :: aside) rig) :
    ∃ later, machine.Reaches later ∧ Mirrors later aside (rig.runInline program).2 ∧
      ∀ result, (rig.runInline program).1 = some result → Program.done result ∈ later.threads := by
  induction program generalizing rig machine with
  | done value =>
      refine ⟨machine, .refl machine, hmirrors.forget (List.sublist_cons_self _ _), ?_⟩
      rintro result ⟨⟩
      exact hmirrors.mem_threads
  | perform op rest ih =>
      rw [Rig.runInline]
      split
      next reply next hperform =>
        obtain ⟨between, hbetween, hmiddle⟩ := hmirrors.perform hperform
        obtain ⟨later, hlater, hnext⟩ := ih reply hmiddle
        exact ⟨later, hbetween.trans hlater, hnext⟩
      next =>
        obtain ⟨between, hbetween, hmiddle⟩ := hmirrors.performLate
        split
        next reply next hlate =>
          rw [hlate] at hmiddle
          obtain ⟨later, hlater, hnext⟩ := ih reply hmiddle
          exact ⟨later, hbetween.trans hlater, hnext⟩
        next next hlate =>
          rw [hlate] at hmiddle
          exact ⟨between, hbetween, hmiddle, nofun⟩

theorem Rig.runInline_phase (rig : Rig) (program : Program (Except CallError Reply)) :
    (rig.runInline program).2.session.phase = rig.session.phase := by
  induction program generalizing rig with
  | done value => rfl
  | perform op rest ih =>
      rw [runInline]
      split
      next reply next hperform => exact (ih reply next).trans (perform_frame hperform).1
      next =>
        have hphase := performLate_phase turnLimit rig op
        split
        next reply next hlate =>
          rw [hlate] at hphase
          exact (ih reply next).trans hphase
        next next hlate => rwa [hlate] at hphase

end AntHost.Bench
