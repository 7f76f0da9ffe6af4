import AntHost.Proofs.Bench.Threads
/-!
# Routers of rigs and machines

What handlers do on the router's thread, what the router routes and how it stops are events of the
machine: calls that begin on the router's thread, messages that are routed, the three steps of the
way out.
-/

namespace AntHost.Bench.Rig

variable {rig next : Rig} {answer : Answer}

/-! ## Requests -/

theorem setTable_stays (rig : Rig) (table : DispatchTable Recipient Nat) :
    rig.Stays .nothing (rig.setTable table) where
  leads := .of_change (fun session => { session with table }) [.setTable table]
    (fun _ _ => rfl) (fun _ _ => rfl) rfl rfl rfl rfl
  phase := rfl

theorem setCancel_stays (rig : Rig) (raised : Bool) :
    rig.Stays .nothing { rig with session.cancelRaised := raised } where
  leads := .of_change (fun session => { session with cancelRaised := raised }) [.setCancel raised]
    (fun _ _ => rfl) (fun _ _ => rfl) rfl rfl rfl rfl
  phase := rfl

theorem dropReceiver_stays (rig : Rig) (name : String) :
    rig.Stays .nothing (rig.dropReceiver name).2 := by
  rw [dropReceiver]
  split
  next => exact .refl rig
  next => exact .of_same rfl rfl rfl rfl

theorem queueEvents_stays (rig : Rig) (channel : UInt8) (capacity : Nat) (name : String) :
    rig.Stays .nothing (rig.queueEvents channel capacity name) := by
  have hbuffer : rig.Stays .nothing { rig.freshBuffer.2 with
      queues := rig.queues.set rig.buffers (.ofCapacity capacity) } := .of_same rfl rfl rfl rfl
  have htable := hbuffer.trans
    (setTable_stays _ (rig.session.table.assign channel ⟨.queue rig.buffers, rig.buffers⟩))
  exact (htable.trans (dropReceiver_stays _ name)).trans (.of_same rfl rfl rfl rfl)

/-- What concerns the host alone concerns at most the handlers and the flag of a machine. -/
theorem answerLocally_stays (rig : Rig) (request : Request) :
    rig.Stays (rig.answerLocally request).1 (rig.answerLocally request).2 := by
  cases request with
  | call => exact .refl rig
  | state =>
      refine ⟨(Leads.refl rig).answer fun machine _ hmirrors => ?_, rfl⟩
      exact Nat.le_of_eq (congrArg RouterState.rank hmirrors.state.symm)
  | config => exact ⟨(Leads.refl rig).answer fun _ _ hmirrors => hmirrors.config, rfl⟩
  | setChannelHandler channel handler =>
      have hbuffer : rig.Stays .nothing rig.freshBuffer.2 := .of_same rfl rfl rfl rfl
      exact hbuffer.trans (setTable_stays _ _)
  | setResponseHandler handler =>
      have hbuffer : rig.Stays .nothing rig.freshBuffer.2 := .of_same rfl rfl rfl rfl
      exact hbuffer.trans (setTable_stays _ _)
  | clearHandlers => exact rig.setTable_stays _
  | queueEvents channel capacity name => exact rig.queueEvents_stays channel capacity name
  | useCancelFlag installed =>
      exact ⟨.of_change (fun session => { session with cancelInstalled := installed })
        [.installCancel installed] (fun _ _ => rfl) (fun _ _ => rfl) rfl rfl rfl rfl, rfl⟩

/-- A call on the router's thread answers what it returns, unless it never returns. -/
theorem runInline_stays (rig : Rig) (call : Call) :
    rig.Stays ((rig.runInline (call.program rig.session.config true)).1.elim .stalled .call)
      (rig.runInline (call.program rig.session.config true)).2 := by
  refine ⟨fun machine aside hmirrors => ?_, rig.runInline_phase _⟩
  obtain ⟨begun, hbegun, hbefore⟩ := hmirrors.begin call true
  obtain ⟨later, hlater, hafter, hresult⟩ := hbefore.runInline
  refine ⟨later, hbegun.trans hlater, hafter, ?_⟩
  cases hreturned : (rig.runInline (call.program rig.session.config true)).1 with
  | none => trivial
  | some result => exact hresult result hreturned

theorem answerInline_stays (rig : Rig) (request : Request) :
    rig.Stays (rig.answerInline request).1 (rig.answerInline request).2 := by
  unfold answerInline
  split
  next => exact ⟨(Leads.refl rig).answer fun _ _ _ => trivial, rfl⟩
  next =>
    cases request with
    | call call => exact rig.runInline_stays call
    | _ => exact rig.answerLocally_stays _

theorem dropInline_stays (rig : Rig) : rig.Stays .nothing rig.dropInline := by
  rw [dropInline]
  dsimp only
  split
  next => exact .of_same rfl rfl rfl rfl
  next =>
    exact ⟨.of_change Session.requestStop [.requestStop] (fun _ _ => rfl) (fun _ _ => rfl) rfl rfl
      rfl rfl, rfl⟩

/-! ## Handlers -/

/-- What holds may be noted. -/
theorem Stays.note {entry : Entry} (hstays : rig.Stays answer next)
    (hentry : ∀ machine, answer.HoldsOn machine → entry.HoldsOn machine) :
    rig.Stays .nothing (next.note entry) := by
  refine ⟨fun machine aside hmirrors => ?_, hstays.phase⟩
  obtain ⟨later, hreaches, hnext, hanswer⟩ := hstays.leads machine aside hmirrors
  refine ⟨later, hreaches, hnext.congr rfl rfl rfl fun noted hnoted => ?_, trivial⟩
  refine (List.mem_append.mp hnoted).imp_right fun hnew => ?_
  cases List.mem_singleton.mp hnew
  exact hentry later hanswer

theorem react_stays (rig : Rig) (acts : List Act) : rig.Stays .nothing (rig.react acts).2 := by
  induction acts generalizing rig with
  | nil => exact .refl rig
  | cons act rest ih =>
      cases act with
      | request request =>
          have hanswer := rig.answerInline_stays request
          rw [react]
          split
          next panicked hafter =>
            rw [hafter] at hanswer
            exact hanswer.trans (.refl _)
          next answer after hafter =>
            rw [hafter] at hanswer
            exact (hanswer.note fun _ => id).trans (ih _)
      | setCancel raised => exact (rig.setCancel_stays raised).trans (ih _)
      | crash => exact .refl rig
      | dropSession => exact rig.dropInline_stays.trans (ih _)

theorem invoke_stays (rig : Rig) (invocation : Invocation Recipient Nat) :
    rig.Stays .nothing (rig.invoke invocation).2 := by
  rw [invoke]
  split
  next =>
    refine Stays.trans (.note (.refl rig) ?_) (react_stays _ _)
    exact fun _ _ => trivial
  next =>
    split
    next => exact .refl rig
    next => exact .of_same rfl rfl rfl rfl

/-! ## The router -/

theorem letGo_leads (rig : Rig) : rig.Leads .nothing rig.letGo := by
  rw [letGo]
  dsimp only
  split
  next => exact .of_same rfl rfl rfl fun _ => .inl
  next =>
    refine .of_same rfl rfl rfl fun entry hentry => ?_
    refine (List.mem_append.mp hentry).imp_right fun hcall _ => ?_
    obtain ⟨call, _, rfl⟩ := List.mem_map.mp hcall
    trivial

theorem retire_leads (rig : Rig) : rig.Leads .nothing rig.retire := by
  rw [retire]
  split
  next =>
    have hsenders : rig.Leads .nothing (rig.dropSenders fun _ => true) :=
      .of_same rfl rfl rfl fun _ => .inl
    exact hsenders.trans (letGo_leads _)
  next => exact .refl rig

theorem abandon_leads (rig : Rig) : rig.Leads .nothing rig.abandon := by
  rw [abandon]
  split
  next => exact rig.letGo_leads
  next => exact .refl rig

/-- A router that polls can go all of its way out. -/
theorem stop_leads (hpolling : rig.session.phase = .polling) : rig.Leads .nothing rig.stop := by
  refine .of_change Session.shutDown [.leave, .endRequests, .endTransfers]
    (fun machine hphase => ?_) (fun _ _ => rfl) rfl rfl rfl rfl
  rw [Machine.run, Machine.step, if_pos (hphase.trans hpolling)]
  rfl

theorem routeAll_leads (hpolling : rig.session.phase = .polling) (messages : List Message) :
    rig.Leads .nothing (rig.routeAll messages) := by
  induction messages generalizing rig with
  | nil => exact .refl rig
  | cons message rest ih =>
      have hroute : rig.Leads .nothing { rig with session := (rig.session.route message).2 } := by
        refine .of_change (fun session => (session.route message).2) [.route message]
          (fun machine hphase => ?_) (fun session deframer => ?_) rfl rfl rfl rfl
        · rw [Machine.run, Machine.step, if_pos (hphase.trans hpolling)]
          rfl
        · rw [session.route_deframer]
      have hrouted : (rig.session.route message).2.phase = .polling := by
        rw [Session.route_frame]
        exact hpolling
      rw [routeAll]
      generalize rig.session.route message = result at hroute hrouted
      obtain ⟨call, session⟩ := result
      dsimp only at hroute hrouted ⊢
      split
      next => exact hroute.trans (ih hrouted)
      next invocation =>
        have hinvoke := invoke_stays { rig with session } invocation
        have hinvoked := hinvoke.phase.trans hrouted
        split
        next after hafter =>
          rw [hafter] at hinvoke hinvoked
          exact (hroute.trans hinvoke.leads).trans (ih hinvoked)
        next after hafter =>
          rw [hafter] at hinvoke hinvoked
          exact ((hroute.trans hinvoke.leads).trans (stop_leads hinvoked)).trans (abandon_leads _)

theorem poll_stays (rig : Rig) : rig.Stays .nothing rig.poll.2 := by
  unfold poll
  split
  next => exact .of_same rfl rfl rfl rfl
  next stick _ =>
    dsimp only
    split
    next => exact .of_same rfl rfl rfl rfl
    next =>
      split
      next => split <;> exact .of_same rfl rfl rfl rfl
      next => split <;> exact .of_same rfl rfl rfl rfl
      next => exact .of_same rfl rfl rfl rfl
      next => exact .of_same rfl rfl rfl rfl

/-- Deframing stays on the rig. -/
theorem takeChunk_leads (rig : Rig) (bytes : List UInt8) :
    rig.Leads .nothing { rig with session := (rig.session.takeChunk bytes).2 } := by
  intro machine aside hmirrors
  refine ⟨machine, .refl machine, { hmirrors with session := ?_ }, trivial⟩
  exact congrArg (fun session : Session Recipient Nat =>
    { session with deframer := (rig.session.deframer.readChunk bytes).2 }) hmirrors.session

theorem settleRouter_leads (rounds : Nat) (rig : Rig) :
    rig.Leads .nothing (rig.settleRouter rounds) := by
  induction rounds generalizing rig with
  | zero => exact .refl rig
  | succ rounds ih =>
      have hpoll := rig.poll_stays
      rw [settleRouter]
      split
      next => exact .refl rig
      next hphase =>
        have hpolling : rig.session.phase = .polling := Decidable.not_not.mp hphase
        split
        next => exact (stop_leads hpolling).trans (retire_leads _)
        next =>
          split
          next hread =>
            rw [hread] at hpoll
            exact hpoll.leads
          next hread =>
            rw [hread] at hpoll
            exact (hpoll.leads.trans (stop_leads (hpoll.phase.trans hpolling))).trans
              (retire_leads _)
          next bytes after hread =>
            rw [hread] at hpoll
            have hchunk := hpoll.leads.trans (after.takeChunk_leads bytes)
            refine (hchunk.trans (routeAll_leads ?_ _)).trans (ih _)
            exact hpoll.phase.trans hpolling

theorem quiesce_leads (rig : Rig) : rig.Leads .nothing rig.quiesce := settleRouter_leads _ rig

end AntHost.Bench.Rig
