import AntHost.Proofs.Bench.Router
/-!
# Scripts and runs

A rig that plays a script takes a machine through one run: after every step the machine has reached
what the step's record shows. So what holds of all machines that a session's start reaches holds of
whatever is seen on the bench.
-/

namespace AntHost.Bench

namespace Rig

variable {rig next : Rig}

/-! ## Waiting for calls -/

theorem dropOutside_leads (rig : Rig) : rig.Leads .nothing rig.dropOutside := by
  intro machine aside hmirrors
  obtain ⟨begun, hbegun, hbefore⟩ := hmirrors.begin .close false
  obtain ⟨between, hbetween, hmiddle⟩ := hbefore.advance
  have hreaches := hbegun.trans hbetween
  unfold dropOutside
  split
  next rest waiting hadvance =>
    rw [hadvance] at hmiddle
    obtain ⟨quiet, hquiet, hready, _⟩ := waiting.quiesce_leads between _ hmiddle
    obtain ⟨closed, hclosed, hafter⟩ := hready.advance
    obtain ⟨later, hlater, hnext⟩ :=
      retire_leads _ closed aside (hafter.forget (List.sublist_append_right _ _))
    exact ⟨later, ((hreaches.trans hquiet).trans hclosed).trans hlater, hnext⟩
  next thread after _ hadvance =>
    rw [hadvance] at hmiddle
    obtain ⟨later, hlater, hnext⟩ :=
      retire_leads after between aside (hmiddle.forget (List.sublist_append_right _ _))
    exact ⟨later, hreaches.trans hlater, hnext⟩

theorem settleAll_leads (turns : Nat) (rig : Rig) : rig.Leads .nothing (rig.settleAll turns) := by
  induction turns generalizing rig with
  | zero => exact rig.quiesce_leads
  | succ turns ih =>
      rw [settleAll]
      dsimp only
      split
      next => exact rig.quiesce_leads
      next caller rest hnext =>
        obtain ⟨thread, hthread, hrest⟩ := exists_of_next? hnext
        have hwent := rig.quiesce_leads.trans (goOn_stays hthread hrest).leads
        split
        next => exact hwent.trans (ih _)
        next => exact (hwent.trans (dropOutside_leads _)).trans (ih _)

theorem settle_leads (rig : Rig) : rig.Leads .nothing rig.settle := settleAll_leads _ rig

/-- A call that never ends is given up; the machine keeps its thread. -/
theorem stalled_leads (rig : Rig) (caller : Caller) :
    rig.Leads .stalled { rig with threads := rig.threads.erase caller } :=
  fun machine _ hmirrors => ⟨machine, .refl machine, hmirrors.drop caller, trivial⟩

theorem ended_leads {caller : Caller} {answer : Answer}
    (hended : rig.threads.get? caller = some (.ended answer)) :
    rig.Leads answer { rig with threads := rig.threads.erase caller } := by
  intro machine aside hmirrors
  refine ⟨machine, .refl machine, hmirrors.drop caller, hmirrors.answers answer ?_⟩
  exact List.mem_map_of_mem (KeyedList.mem_of_get? hended)

/-- What is waited for is what the call of the thread has returned. -/
theorem await_leads (jumps : Nat) (rig : Rig) (caller : Caller) :
    rig.Leads (rig.await jumps caller).1 (rig.await jumps caller).2 := by
  induction jumps generalizing rig with
  | zero =>
      unfold await
      dsimp only
      split
      next => exact rig.settle_leads
      next hended => exact rig.settle_leads.trans (ended_leads hended)
      next => exact rig.settle_leads.trans (stalled_leads _ _)
  | succ jumps ih =>
      unfold await
      dsimp only
      split
      next => exact rig.settle_leads
      next hended => exact rig.settle_leads.trans (ended_leads hended)
      next =>
        split
        next hjumps => cases hjumps
        next => exact rig.settle_leads.trans (stalled_leads _ _)
        next hjumps _ =>
          cases hjumps
          exact (rig.settle_leads.trans (waitUntil_stays _ _).leads).trans (ih _)

theorem startCall_leads (rig : Rig) (caller : Caller) (call : Call) :
    rig.Leads .nothing (rig.startCall caller call) := by
  intro machine aside hmirrors
  obtain ⟨begun, hbegun, hbefore⟩ := hmirrors.begin call false
  exact ⟨begun, hbegun, .put (hbefore.drop caller) hmirrors.distinct nofun, trivial⟩

/-! ## Steps -/

theorem make_leads (rig : Rig) (request : Request) :
    rig.Leads (rig.make request).1 (rig.make request).2 := by
  unfold make
  split
  next => exact (Leads.refl rig).answer fun _ _ _ => trivial
  next =>
    cases request with
    | call call => exact (rig.startCall_leads .host call).trans (await_leads _ _ _)
    | _ => exact (rig.answerLocally_stays _).leads

theorem spawn_leads (rig : Rig) (name : String) (request : Request) :
    rig.Leads .nothing (rig.spawn name request) := by
  have hended : rig.Leads .nothing { (rig.make request).2 with
      threads := (rig.make request).2.threads.set (.task name) (.ended (rig.make request).1) } := by
    intro machine aside hmirrors
    obtain ⟨later, hreaches, hmade, hanswer⟩ := rig.make_leads request machine aside hmirrors
    refine ⟨later, hreaches, .put (hmade.drop (.task name)) hmade.distinct ?_, trivial⟩
    rintro answer ⟨⟩
    exact hanswer
  unfold spawn
  split
  next => exact rig.startCall_leads _ _
  next => exact hended

theorem receive_leads (rig : Rig) (name : String) :
    rig.Leads (rig.receive name).1 (rig.receive name).2 := by
  unfold receive
  split
  next => exact .refl rig
  next =>
    split
    next => exact .refl rig
    next => exact Leads.answer (.of_same rfl rfl rfl fun _ => .inl) fun _ _ _ => trivial

theorem dropHandle_leads (rig : Rig) : rig.Leads .nothing rig.dropHandle.2 := by
  unfold dropHandle
  split
  next =>
    have hgiven : rig.Leads .nothing { rig with held := false } :=
      .of_same rfl rfl rfl fun _ => .inl
    dsimp only
    split
    next => exact hgiven
    next => exact hgiven.trans (dropOutside_leads _)
  next => exact .refl rig

theorem act_leads (rig : Rig) (step : Step) : rig.Leads (rig.act step).1 (rig.act step).2 := by
  cases step with
  | request request => exact rig.make_leads request
  | inject | failRead => exact .of_same rfl rfl rfl fun _ => .inl
  | setCancel raised => exact (rig.setCancel_stays raised).leads
  | receive name => exact rig.receive_leads name
  | dropQueue name => exact (rig.dropReceiver_stays name).leads.answer fun _ _ _ => trivial
  | spawn name request => exact rig.spawn_leads name request
  | join name => exact await_leads _ rig _
  | dropSession => exact rig.dropHandle_leads.answer fun _ _ _ => trivial

theorem eq_of_visibleState {state : RouterState} (hvisible : rig.visibleState = some state) :
    rig.session.state = state := by
  rw [visibleState] at hvisible
  split at hvisible
  next =>
    cases hvisible
    rfl
  next => cases hvisible

end Rig

/-- What a record shows is so on a machine. -/
structure Record.HoldsOn (machine : Machine Recipient Nat) (record : Record) : Prop where
  answer : record.answer.HoldsOn machine
  state : ∀ state, record.state = some state → machine.session.state = state
  seen : ∀ entry ∈ record.seen, entry.HoldsOn machine

/-- One run of a machine passes through what records show, in their order. -/
inductive PassesThrough : Machine Recipient Nat → List Record → Prop where
  | done (machine : Machine Recipient Nat) : PassesThrough machine []
  | next {machine later : Machine Recipient Nat} {record : Record} {rest : List Record}
      (hreaches : machine.Reaches later) (hrecord : record.HoldsOn later)
      (hrest : PassesThrough later rest) : PassesThrough machine (record :: rest)

variable {machine : Machine Recipient Nat} {aside : List (Program (Except CallError Reply))}
  {rig : Rig}

/-- A step of a rig is a run of the machine, which reaches what the step's record shows. -/
theorem Mirrors.step (hmirrors : Mirrors machine aside rig) (step : Step) :
    ∃ later, machine.Reaches later ∧ Mirrors later aside (rig.step step).2 ∧
      (rig.step step).1.HoldsOn later := by
  have hunseen : Mirrors machine aside { rig with seen := [] } := { hmirrors with seen := nofun }
  obtain ⟨acted, hacted, hmiddle, hanswer⟩ := Rig.act_leads _ step machine aside hunseen
  obtain ⟨settled, hsettled, hstill, _⟩ := Rig.settle_leads _ acted aside hmiddle
  obtain ⟨later, hlater, hnext, _⟩ := Rig.retire_leads _ settled aside hstill
  have hafter := hsettled.trans hlater
  refine ⟨later, hacted.trans hafter, hnext, Answer.holdsOn_later _ hanswer hafter, ?_, hnext.seen⟩
  exact fun state hstate => hnext.state.trans (Rig.eq_of_visibleState hstate)

/-- A script that a rig plays is one run of the machine, through every record in turn. -/
theorem Mirrors.play (hmirrors : Mirrors machine aside rig) (script : List Step) :
    PassesThrough machine (rig.play script) := by
  induction script generalizing rig machine with
  | nil =>
      obtain ⟨later, hreaches, _, hrecord⟩ := hmirrors.step .dropSession
      exact .next hreaches hrecord (.done later)
  | cons step rest ih =>
      obtain ⟨later, hreaches, hnext, hrecord⟩ := hmirrors.step step
      exact .next hreaches hrecord (ih hnext)

/-! ## From the start of a session -/

theorem mirrors_start (config : Config) (rig : Rig) (hsession : rig.session = .start config)
    (hnow : rig.now = 0) (hthreads : rig.threads = {}) (hseen : rig.seen = []) :
    Mirrors (.start config) [] rig where
  session := hsession ▸ rfl
  now := hnow
  distinct := hthreads ▸ List.nodup_nil
  programs := by
    rw [Rig.programs, hthreads]
    exact .refl []
  answers := by simp [hthreads, KeyedList.values]
  seen := by simp [hseen]

/-- Whatever is seen of a session over a link in memory, a run of the machine passes through. -/
theorem inMemory_play (config : Config) (device : Device) (closable : Bool) (script : List Step) :
    PassesThrough (.start config) ((Rig.inMemory config device closable).play script) :=
  (mirrors_start config _ rfl rfl rfl rfl).play script

/-- Whatever is seen of a session over a USB stick, a run of the machine passes through. -/
theorem onBus_play {config : Config} {device : Device} {bus : UsbBus} {index : Nat} {rig : Rig}
    (hready : (Rig.onBus config device bus index).1 = .ok rig) (script : List Step) :
    PassesThrough (.start config) (rig.play script) := by
  rw [Rig.onBus] at hready
  split at hready
  next => cases hready
  next =>
    cases hready
    exact (mirrors_start config _ rfl rfl rfl rfl).play script

end AntHost.Bench
