import AntHost.Session.Call
/-!
# Protocols of programs

A protocol says which operations may come at a stage, and what stage each reply leads to. A program
keeps a protocol if it does so whatever it is told, so that it does in every interleaving, too. What
is said of a sequence of programs is said of the first, with the rest as what must hold at its end.
-/

namespace AntHost

variable {Stage α β : Type}

structure Protocol (Stage : Type) where
  allows : Stage → Op → Prop
  next : Stage → (op : Op) → op.Reply → Stage

variable {protocol : Protocol Stage} {stage : Stage}

namespace Program

/-- Whether a program performs allowed operations only and ends as it should. -/
def Keeps (protocol : Protocol Stage) (ends : α → Stage → Prop) : Program α → Stage → Prop
  | done value, stage => ends value stage
  | perform op next, stage =>
      protocol.allows stage op ∧
        ∀ reply, (next reply).Keeps protocol ends (protocol.next stage op reply)

/-- Whether every operation of a program is of some kind. -/
def Only (kind : Op → Prop) : Program α → Prop
  | done _ => True
  | perform op next => kind op ∧ ∀ reply, (next reply).Only kind

theorem keeps_bind {ends : β → Stage → Prop} {program : Program α} {rest : α → Program β} :
    (program.bind rest).Keeps protocol ends stage ↔
      program.Keeps protocol (fun value later => (rest value).Keeps protocol ends later) stage := by
  induction program generalizing stage with
  | done value => rfl
  | perform op next ih => exact and_congr_right fun _ => forall_congr' fun reply => ih reply

theorem Keeps.mono {ends weaker : α → Stage → Prop} {program : Program α}
    (hkeeps : program.Keeps protocol ends stage)
    (hends : ∀ value later, ends value later → weaker value later) :
    program.Keeps protocol weaker stage := by
  induction program generalizing stage with
  | done value => exact hends value stage hkeeps
  | perform op next ih => exact ⟨hkeeps.1, fun reply => ih reply (hkeeps.2 reply)⟩

/-- Operations that a protocol allows throughout, and that keep what it asks for, may come in any
number. -/
theorem Only.keeps {kind : Op → Prop} {Holds : Stage → Prop} {program : Program α}
    (honly : program.Only kind)
    (hallows : ∀ stage op, Holds stage → kind op →
      protocol.allows stage op ∧ ∀ reply, Holds (protocol.next stage op reply))
    (hstage : Holds stage) : program.Keeps protocol (fun _ later => Holds later) stage := by
  induction program generalizing stage with
  | done value => exact hstage
  | perform op next ih =>
      obtain ⟨hallowed, hnext⟩ := hallows stage op hstage honly.1
      exact ⟨hallowed, fun reply => ih reply (honly.2 reply) (hnext reply)⟩

theorem only_of_forall {kind : Op → Prop} (hkind : ∀ op, kind op) (program : Program α) :
    program.Only kind := by
  induction program with
  | done value => trivial
  | perform op next ih => exact ⟨hkind op, ih⟩

theorem Only.bind {kind : Op → Prop} {program : Program α} {rest : α → Program β}
    (honly : program.Only kind) (hrest : ∀ value, (rest value).Only kind) :
    (program.bind rest).Only kind := by
  induction program with
  | done value => exact hrest value
  | perform op next ih => exact ⟨honly.1, fun reply => ih reply (honly.2 reply)⟩

theorem Only.mono {kind weaker : Op → Prop} {program : Program α} (honly : program.Only kind)
    (hkind : ∀ op, kind op → weaker op) : program.Only weaker := by
  induction program with
  | done value => trivial
  | perform op next ih => exact ⟨hkind op honly.1, fun reply => ih reply (honly.2 reply)⟩

end Program

namespace Action

/-- What must hold when an action ends, with a value or with an error. -/
def ending (good : α → Stage → Prop) (bad : CallError → Stage → Prop) :
    Except CallError α → Stage → Prop
  | .ok value, stage => good value stage
  | .error error, stage => bad error stage

def Keeps (protocol : Protocol Stage) (good : α → Stage → Prop) (bad : CallError → Stage → Prop)
    (action : Action α) (stage : Stage) : Prop :=
  action.run.Keeps protocol (ending good bad) stage

def Only (kind : Op → Prop) (action : Action α) : Prop := action.run.Only kind

section Keeps

variable {good : α → Stage → Prop} {bad : CallError → Stage → Prop} {action : Action α}

theorem keeps_pure {value : α} :
    (pure value : Action α).Keeps protocol good bad stage ↔ good value stage :=
  Iff.rfl

theorem keeps_bind {good : β → Stage → Prop} {rest : α → Action β} :
    (action >>= rest).Keeps protocol good bad stage ↔
      action.Keeps protocol (fun value later => (rest value).Keeps protocol good bad later) bad
        stage := by
  have hrun : (action >>= rest).run = action.run.bind (ExceptT.bindCont rest) := rfl
  rw [Keeps, Keeps, hrun, Program.keeps_bind]
  refine iff_of_eq (congrArg (fun ends => action.run.Keeps protocol ends stage) ?_)
  funext result later
  cases result <;> rfl

/-- One operation, and then what its reply asks for. -/
theorem keeps_perform {op : Op} {rest : op.Reply → Action α} :
    Keeps protocol good bad (liftM (Program.single op) >>= rest) stage ↔
      protocol.allows stage op ∧
        ∀ reply, (rest reply).Keeps protocol good bad (protocol.next stage op reply) :=
  Iff.rfl

/-- A wait that is to start goes on with its deadline, or panics. -/
theorem keeps_deadlineFrom {policy : WaitPolicy} {start : Nat} {rest : Option Nat → Action α}
    (hfits : ∀ deadline, policy.deadline start = .ok deadline →
      (rest deadline).Keeps protocol good bad stage)
    (hover : ∀ overflow, policy.deadline start = .error overflow → bad .panicked stage) :
    (deadlineFrom policy start >>= rest).Keeps protocol good bad stage := by
  rw [deadlineFrom]
  cases hdeadline : policy.deadline start with
  | ok deadline => exact hfits deadline hdeadline
  | error overflow => exact hover overflow hdeadline

/-- A last operation comes whichever way the action before it ends. -/
theorem keeps_andLast {op : Op} {last : Program Unit}
    (hlast : last = .perform op fun _ => .done ()) :
    (action.andLast last).Keeps protocol good bad stage ↔
      action.Keeps protocol
        (fun value later => protocol.allows later op ∧
          ∀ reply, good value (protocol.next later op reply))
        (fun error later => protocol.allows later op ∧
          ∀ reply, bad error (protocol.next later op reply)) stage := by
  subst hlast
  have hrun : (action.andLast (.perform op fun _ => .done ())).run = action.run.bind fun result =>
      .perform op fun _ => .done result := rfl
  rw [Keeps, Keeps, hrun, Program.keeps_bind]
  refine iff_of_eq (congrArg (fun ends => action.run.Keeps protocol ends stage) ?_)
  funext result later
  cases result <;> rfl

theorem Keeps.mono {better : α → Stage → Prop} {worse : CallError → Stage → Prop}
    (hkeeps : action.Keeps protocol good bad stage)
    (hgood : ∀ value later, good value later → better value later)
    (hbad : ∀ error later, bad error later → worse error later) :
    action.Keeps protocol better worse stage := by
  refine Program.Keeps.mono hkeeps ?_
  rintro (error | value) later hlater
  · exact hbad error later hlater
  · exact hgood value later hlater

theorem Only.keeps {kind : Op → Prop} {Holds : Stage → Prop} (honly : action.Only kind)
    (hallows : ∀ stage op, Holds stage → kind op →
      protocol.allows stage op ∧ ∀ reply, Holds (protocol.next stage op reply))
    (hstage : Holds stage) :
    action.Keeps protocol (fun _ later => Holds later) (fun _ later => Holds later) stage := by
  refine Program.Keeps.mono (Program.Only.keeps honly hallows hstage) ?_
  rintro (error | value) later hlater
  · exact hlater
  · exact hlater

end Keeps

/-! ## Actions of one kind of operations -/

section Only

variable {kind : Op → Prop} {action : Action α}

theorem Only.mono {weaker : Op → Prop} (honly : action.Only kind)
    (hkind : ∀ op, kind op → weaker op) : action.Only weaker :=
  Program.Only.mono honly hkind

theorem only_pure {value : α} : (pure value : Action α).Only kind := trivial

theorem only_throw {error : CallError} : (throw error : Action α).Only kind := trivial

theorem only_single {op : Op} (hop : kind op) : (Program.single op : Action op.Reply).Only kind :=
  ⟨hop, fun _ => trivial⟩

theorem only_bind {rest : α → Action β} (honly : action.Only kind)
    (hrest : ∀ value, (rest value).Only kind) : (action >>= rest).Only kind := by
  refine Program.Only.bind honly ?_
  rintro (error | value)
  · exact trivial
  · exact hrest value

theorem only_ofWait {result : Except WaitError α} : (ofWait result).Only kind := by
  cases result <;> exact trivial

theorem only_deadlineFrom {policy : WaitPolicy} {start : Nat} :
    (deadlineFrom policy start).Only kind := by
  rw [deadlineFrom]
  cases policy.deadline start <;> exact trivial

theorem only_andLast {op : Op} {last : Program Unit}
    (hlast : last = .perform op fun _ => .done ()) (hop : kind op) (honly : action.Only kind) :
    (action.andLast last).Only kind := by
  subst hlast
  exact Program.Only.bind honly fun _ => ⟨hop, fun _ => trivial⟩

end Only

end Action

end AntHost
