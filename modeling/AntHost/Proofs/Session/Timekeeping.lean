import AntHost.Proofs.Session.Budget
import AntHost.Proofs.Session.Threads
/-!
# How calls keep to their time

A call asks once whether it is to watch the cancel flag. It looks at the clock as it starts,
whenever it gives a stage what is left of its timeout, and whenever a stage begins. A wait has the
share that its call was left with at the last look but one and begins at the last, or its call
panics there because the clock cannot hold the deadline; a burst that has a timeout hands a frame to
the link only if its share was not over at the last look.
-/

namespace AntHost

namespace Call

/-- How long a call may wait in all; zero is for ever. -/
def budget : Call → Nat
  | command _ timeout | reset timeout | request _ _ timeout | broadcast _ _ timeout
  | acknowledged _ _ timeout | burst _ _ timeout => timeout.getD 0
  | raw .. | close => 0

/-- The policy that a call starts with. -/
def policy (config : Config) (watchesCancel : Bool) (call : Call) : WaitPolicy :=
  ⟨call.budget, watchesCancel, config.cancelPollInterval⟩

/-- Whether a call looks at its time before each of its frames. -/
def isTimedBurst : Call → Bool
  | burst _ _ (some _) => true
  | _ => false

end Call

/-- The policy and the deadline of a wait. -/
def Op.wait? : Op → Option (WaitPolicy × Option Nat)
  | awaitResponse _ _ policy deadline | beginTransfer _ _ _ policy deadline
  | awaitOutcome policy deadline => some (policy, deadline)
  | _ => none

/-! ## The conduct -/

/-- What the clock showed a call, and what it was told of the cancel flag. -/
structure ClockStage where
  readings : List Nat := []
  flags : List Bool := []

/-- When a wait was given its share and when it began, and when its call's time started. A call that
looks at the clock only once does all three at once. -/
inductive SharedAt : List Nat → Nat → Nat → Nat → Prop
  | sole (start : Nat) : SharedAt [start] start start start
  | later {before : List Nat} {start taken : Nat} (began : Nat)
      (hstart : (before ++ [taken]).head? = some start) :
      SharedAt (before ++ [taken] ++ [began]) start taken began

namespace ClockStage

def next (stage : ClockStage) : (op : Op) → op.Reply → ClockStage
  | .now, reading => { stage with readings := stage.readings ++ [reading] }
  | .cancelInstalled, installed => { stage with flags := stage.flags ++ [installed] }
  | _, _ => stage

/-- A wait that begins now has its share of what the call started with. -/
def Begins (config : Config) (call : Call) (stage : ClockStage) (policy : WaitPolicy)
    (began : Nat) : Prop :=
  stage.flags = [policy.watchesCancel] ∧ ∃ start taken,
    SharedAt stage.readings start taken began ∧
      (call.policy config policy.watchesCancel).handDown start [⟨taken, began⟩] =
        .ok (policy, began)

/-- A wait has its share of what the call started with, and ends when that says. -/
def Waits (config : Config) (call : Call) (stage : ClockStage) (policy : WaitPolicy)
    (deadline : Option Nat) : Prop :=
  ∃ began, stage.Begins config call policy began ∧ policy.deadline began = .ok deadline

/-- A wait was to begin whose deadline the clock cannot hold. -/
def Overflows (config : Config) (call : Call) (stage : ClockStage) : Prop :=
  ∃ policy began overflow,
    stage.Begins config call policy began ∧ policy.deadline began = .error overflow

/-- The share of a burst lasted at its last look at the clock. -/
def Lasts (config : Config) (call : Call) (stage : ClockStage) : Prop :=
  ∃ flag start begun taken began looks look share,
    stage.flags = [flag] ∧ stage.readings = [start, begun, taken, began] ++ looks ++ [look] ∧
      (call.policy config flag).handDown start [⟨taken, began⟩, ⟨look, look⟩] = .ok (share, look)

/-- What a call may do at a stage. -/
def Allows (config : Config) (call : Call) (stage : ClockStage) : Op → Prop
  | .awaitResponse _ _ policy deadline | .beginTransfer _ _ _ policy deadline
  | .awaitOutcome policy deadline => stage.Waits config call policy deadline
  | .write _ => call.isTimedBurst → stage.Lasts config call
  | _ => True

end ClockStage

/-- The conduct of calls towards the clock. A call panics for nothing but a deadline. -/
def clockConduct (config : Config) : Conduct ClockStage where
  idle := {}
  enter _ := {}
  allows := ClockStage.Allows config
  next := ClockStage.next
  ends call result stage := result = .error .panicked → stage.Overflows config call

theorem CallError.ofWait_ne_panicked (error : WaitError) : ofWait error ≠ .panicked := by
  cases error <;> nofun

namespace ClockStage

variable {config : Config} {call : Call} {stage : ClockStage} {policy : WaitPolicy}

/-- The stage after a look at the clock. -/
def read (stage : ClockStage) (reading : Nat) : ClockStage :=
  { stage with readings := stage.readings ++ [reading] }

/-- A wait with this policy has its share, whenever it begins. -/
def Ready (config : Config) (call : Call) (policy : WaitPolicy) (stage : ClockStage) : Prop :=
  ∀ began, (stage.read began).Begins config call policy began

theorem ready_remaining {before : List Nat} {start taken : Nat} {flag : Bool}
    (hreadings : stage.readings = before ++ [taken]) (hflags : stage.flags = [flag])
    (hstart : (before ++ [taken]).head? = some start)
    (hleft : (call.policy config flag).remaining (taken - start) = .ok policy) :
    stage.Ready config call policy := by
  have hflag : policy.watchesCancel = flag := by
    rcases WaitPolicy.remaining_eq_ok_iff.mp hleft with ⟨_, rfl⟩ | ⟨_, rfl⟩ <;> rfl
  refine fun began => ⟨hflag ▸ hflags, start, taken, ?_, ?_⟩
  · rw [read, hreadings]
    exact .later began hstart
  · rw [hflag, WaitPolicy.handDown, hleft]
    rfl

/-- The first wait of a call has all of the call's time, and may have read the clock before. -/
theorem ready_first {flag : Bool} (hflags : stage.flags = [flag])
    (hreadings : stage.readings = [] ∨ ∃ start, stage.readings = [start]) :
    stage.Ready config call (call.policy config flag) := by
  rcases hreadings with hnone | ⟨start, hsole⟩
  · refine fun began => ⟨hflags, began, began, ?_, ?_⟩
    · rw [read, hnone]
      exact .sole began
    · rw [WaitPolicy.handDown, Nat.sub_self, WaitPolicy.remaining_zero]
      rfl
  · have hall : (call.policy config flag).remaining (start - start) =
        .ok (call.policy config flag) := by
      rw [Nat.sub_self, WaitPolicy.remaining_zero]
    exact ready_remaining (List.nil_append [start] ▸ hsole) hflags rfl hall

end ClockStage

namespace Action

variable {α β : Type} {config : Config} {call : Call} {stage : ClockStage} {action : Action α}
  {policy : WaitPolicy} {good : α → ClockStage → Prop}

/-- From a stage on, an action keeps to its call's time and ends well, or fails, and then with a
panic only for a deadline. -/
def KeepsTime (config : Config) (call : Call) (good : α → ClockStage → Prop) (action : Action α)
    (stage : ClockStage) : Prop :=
  action.Keeps ((clockConduct config).protocol call) good
    (fun error later => error = .panicked → later.Overflows config call) stage

theorem KeepsTime.bind {good : β → ClockStage → Prop} {middle : α → ClockStage → Prop}
    {rest : α → Action β} (hkeeps : action.KeepsTime config call middle stage)
    (hrest : ∀ value later, middle value later → (rest value).KeepsTime config call good later) :
    (action >>= rest).KeepsTime config call good stage :=
  keeps_bind.mpr (hkeeps.mono hrest fun _ _ hpanics => hpanics)

/-- How an action ends does not matter any more. -/
theorem KeepsTime.settle (hkeeps : action.KeepsTime config call good stage) :
    action.KeepsTime config call (fun _ _ => True) stage :=
  hkeeps.mono (fun _ _ _ => trivial) fun _ _ hpanics => hpanics

theorem keepsTime_ofWait (result : Except WaitError α) :
    (ofWait result).KeepsTime config call (fun value later => result = .ok value ∧ later = stage)
      stage := by
  cases result with
  | error error => exact fun hpanic => absurd hpanic (CallError.ofWait_ne_panicked error)
  | ok value => exact ⟨rfl, rfl⟩

/-- A wait that begins with its share has a deadline, or its call panics. -/
theorem keepsTime_wait {start : Nat} {rest : Option Nat → Action β}
    {good : β → ClockStage → Prop} (hbegins : stage.Begins config call policy start)
    (hrest : ∀ deadline, stage.Waits config call policy deadline →
      (rest deadline).KeepsTime config call good stage) :
    (deadlineFrom policy start >>= rest).KeepsTime config call good stage :=
  keeps_deadlineFrom (fun deadline hfits => hrest deadline ⟨start, hbegins, hfits⟩)
    fun overflow hover _ => ⟨policy, start, overflow, hbegins, hover⟩

/-! ## The parts of calls -/

theorem keepsTime_writeFramed {frame : Except FramingError (List UInt8)}
    (hlasts : call.isTimedBurst → stage.Lasts config call) :
    (writeFramed frame).KeepsTime config call (fun _ later => later = stage) stage := by
  cases frame with
  | error error => exact nofun
  | ok frame =>
      refine keeps_perform.mpr ⟨trivial, ?_⟩
      rintro (_ | _)
      · exact nofun
      · refine keeps_perform.mpr ⟨hlasts, ?_⟩
        rintro (error | ⟨⟩)
        · exact nofun
        · rfl

theorem keepsTime_writeFramed_of_plain {frame : Except FramingError (List UInt8)}
    (hplain : call.isTimedBurst = false) :
    (writeFramed frame).KeepsTime config call (fun _ later => later = stage) stage :=
  keepsTime_writeFramed fun hburst => Bool.noConfusion (hplain.symm.trans hburst)

theorem keepsTime_policyFor {good : β → ClockStage → Prop} {timeout : Nat}
    {rest : WaitPolicy → Action β} (hbudget : call.budget = timeout) (hflags : stage.flags = [])
    (hrest : ∀ flag, (rest (call.policy config flag)).KeepsTime config call good
      { stage with flags := [flag] }) :
    (policyFor config timeout >>= rest).KeepsTime config call good stage := by
  subst hbudget
  refine keeps_perform.mpr ⟨trivial, fun flag => ?_⟩
  change (rest _).KeepsTime config call good { stage with flags := stage.flags ++ [flag] }
  rw [hflags]
  exact hrest flag

theorem keepsTime_remainingSince {good : β → ClockStage → Prop} {start : Nat}
    {rest : WaitPolicy → Action β}
    (hrest : ∀ taken left, policy.remaining (taken - start) = .ok left →
      (rest left).KeepsTime config call good (stage.read taken)) :
    (remainingSince policy start >>= rest).KeepsTime config call good stage := by
  refine keeps_bind.mpr (keeps_perform.mpr ⟨trivial, fun taken => ?_⟩)
  refine (keepsTime_ofWait _).mono ?_ fun _ _ hpanics => hpanics
  rintro left _ ⟨hleft, rfl⟩
  exact hrest taken left hleft

theorem keepsTime_awaitResponse {first : Ticket} {second : Option Ticket}
    (hready : stage.Ready config call policy) :
    (awaitResponse first second policy).KeepsTime config call
      (fun _ later => ∃ began, later = stage.read began) stage := by
  refine keeps_perform.mpr ⟨trivial, fun began => ?_⟩
  refine keepsTime_wait (hready began) fun deadline hwaits => ?_
  refine keeps_perform.mpr ⟨hwaits, fun result => ?_⟩
  refine (keepsTime_ofWait result).mono ?_ fun _ _ hpanics => hpanics
  rintro message _ ⟨_, rfl⟩
  exact ⟨began, rfl⟩

theorem keepsTime_expecting {messageId : UInt8} {channel : Option UInt8} {body : Ticket → Action α}
    (hbody : ∀ ticket, (body ticket).KeepsTime config call good stage) :
    (expecting messageId channel body).KeepsTime config call good stage := by
  refine keeps_perform.mpr ⟨trivial, fun ticket => ?_⟩
  exact (keeps_andLast rfl).mpr ((hbody ticket).mono (fun _ _ hgood => ⟨trivial, fun _ => hgood⟩)
    fun _ _ hpanics => ⟨trivial, fun _ => hpanics⟩)

theorem keepsTime_transferring {channel : UInt8} {kind : TransferKind} {packets : Nat}
    {body : Action α} (hready : stage.Ready config call policy)
    (hbody : ∀ began, body.KeepsTime config call good (stage.read began)) :
    (transferring channel kind packets policy body).KeepsTime config call good stage := by
  refine keeps_perform.mpr ⟨trivial, fun began => ?_⟩
  refine keepsTime_wait (hready began) fun deadline hwaits => ?_
  refine keeps_perform.mpr ⟨hwaits, fun begun => (keepsTime_ofWait begun).bind ?_⟩
  rintro _ _ ⟨_, rfl⟩
  exact (keeps_andLast rfl).mpr ((hbody began).mono (fun _ _ hgood => ⟨trivial, fun _ => hgood⟩)
    fun _ _ hpanics => ⟨trivial, fun _ => hpanics⟩)

theorem keepsTime_finishTransfer {channel : UInt8} (hready : stage.Ready config call policy) :
    (finishTransfer channel policy).KeepsTime config call (fun _ _ => True) stage := by
  refine keeps_perform.mpr ⟨trivial, fun began => ?_⟩
  refine keepsTime_wait (hready began) fun deadline hwaits => ?_
  refine keeps_perform.mpr ⟨hwaits, fun result => (keepsTime_ofWait result).bind ?_⟩
  rintro (_ | _) _ _
  · trivial
  · exact nofun

/-- The packets of a burst are written as long as the burst's share lasts. -/
theorem keepsTime_writePackets {channel : UInt8} {start : Nat} {flag : Bool}
    (packets : List BurstPacket) (before looks : List Nat)
    (hlasts : ∀ looks look left, policy.remaining (look - start) = .ok left →
      call.isTimedBurst → ClockStage.Lasts config call ⟨before ++ looks ++ [look], [flag]⟩) :
    (writePackets config channel policy start packets).KeepsTime config call
      (fun _ later => ∃ looks, later = ⟨before ++ looks, [flag]⟩) ⟨before ++ looks, [flag]⟩ := by
  induction packets generalizing looks with
  | nil => exact ⟨looks, rfl⟩
  | cons packet rest ih =>
      refine keeps_perform.mpr ⟨trivial, ?_⟩
      rintro (_ | _)
      · refine keeps_perform.mpr ⟨trivial, fun raised => ?_⟩
        dsimp only
        split
        next => exact nofun
        next =>
          refine keepsTime_remainingSince fun look left hleft => ?_
          refine KeepsTime.bind (keepsTime_writeFramed (hlasts looks look left hleft)) ?_
          rintro _ _ rfl
          refine keeps_perform.mpr ⟨trivial, fun _ => ?_⟩
          have hrest := ih (looks ++ [look])
          rwa [← List.append_assoc] at hrest
      · exact nofun

theorem keepsTime_checkResponse (response : Message) :
    (checkResponse response).KeepsTime config call (fun _ later => later = stage) stage := by
  unfold checkResponse
  split
  · rfl
  · exact nofun

theorem keepsTime_closeSession (onRouter : Bool) :
    (closeSession onRouter).KeepsTime config call (fun _ later => later = stage) stage := by
  unfold closeSession
  split
  · exact nofun
  · refine keeps_perform.mpr ⟨trivial, fun already => ?_⟩
    split
    · rfl
    · exact ⟨trivial, fun _ => ⟨trivial, fun _ => ⟨trivial, fun _ => ⟨trivial, fun _ =>
        ⟨trivial, fun _ => rfl⟩⟩⟩⟩⟩

/-! ## Every call keeps to its time -/

/-- What a call does that writes a command and waits for one message. -/
theorem keepsTime_ask {command : Command} {ticket : Ticket} {timeout : Nat}
    (hbudget : call.budget = timeout) (hplain : call.isTimedBurst = false) :
    KeepsTime config call (fun _ _ => True)
      (do
        sendCommand config command
        let policy ← policyFor config timeout
        awaitResponse ticket none policy) {} := by
  refine KeepsTime.bind (keepsTime_writeFramed_of_plain hplain) ?_
  rintro _ _ rfl
  refine keepsTime_policyFor hbudget rfl fun flag => ?_
  exact (keepsTime_awaitResponse (ClockStage.ready_first rfl (.inl rfl))).settle

theorem keepsTime_confirmCommand {command : Command} {timeout : Nat}
    (hbudget : call.budget = timeout) (hplain : call.isTimedBurst = false) :
    (confirmCommand config command timeout).KeepsTime config call (fun _ _ => True) {} :=
  KeepsTime.bind (keepsTime_expecting fun _ => keepsTime_ask hbudget hplain) fun response _ _ =>
    (keepsTime_checkResponse response).settle

theorem keepsTime_confirmReset {timeout : Nat} (hbudget : call.budget = timeout)
    (hplain : call.isTimedBurst = false) :
    (confirmReset config timeout).KeepsTime config call (fun _ _ => True) {} :=
  keepsTime_expecting fun _ => keepsTime_ask hbudget hplain

/-- The second wait of a request has what the first has left. -/
theorem keepsTime_requestMessage {channel messageId : UInt8} {timeout : Nat}
    (hbudget : call.budget = timeout) (hplain : call.isTimedBurst = false) :
    (requestMessage config channel messageId timeout).KeepsTime config call (fun _ _ => True)
      {} := by
  refine keepsTime_expecting fun pending => ?_
  have hfirst : ∀ refusal, KeepsTime config call
      (fun answered later => ∃ flag began, later = ⟨[answered.2.2, began], [flag]⟩ ∧
        answered.2.1 = call.policy config flag)
      (do
        sendCommand config (.requestMessage channel messageId)
        let start ← clock
        let policy ← policyFor config timeout
        let message ← awaitResponse pending (some refusal) policy
        if isAnswer messageId message then pure ()
        else checkResponse message
        return (message, policy, start)) {} := by
    intro refusal
    refine KeepsTime.bind (keepsTime_writeFramed_of_plain hplain) ?_
    rintro _ _ rfl
    refine keeps_perform.mpr ⟨trivial, fun start => ?_⟩
    refine keepsTime_policyFor hbudget rfl fun flag => ?_
    refine KeepsTime.bind
      (keepsTime_awaitResponse (ClockStage.ready_first rfl (.inr ⟨start, rfl⟩))) ?_
    rintro message _ ⟨began, rfl⟩
    split
    next => exact ⟨flag, began, rfl, rfl⟩
    next =>
      refine KeepsTime.bind (keepsTime_checkResponse message) ?_
      rintro _ _ rfl
      exact ⟨flag, began, rfl, rfl⟩
  refine KeepsTime.bind (keepsTime_expecting hfirst) ?_
  rintro ⟨message, policy, start⟩ _ ⟨flag, began, rfl, rfl⟩
  dsimp only
  split
  next => trivial
  next =>
    refine keepsTime_remainingSince fun taken left hleft => ?_
    have hready : ClockStage.Ready config call left ⟨[start, began] ++ [taken], [flag]⟩ :=
      ClockStage.ready_remaining rfl rfl rfl hleft
    exact (keepsTime_awaitResponse hready).settle

/-- The wait for a data packet's outcome has what the wait for the monitor has left. -/
theorem keepsTime_confirmData {channel : UInt8} {kind : TransferKind} {command : Command}
    {timeout : Nat} (hbudget : call.budget = timeout) (hplain : call.isTimedBurst = false) :
    (confirmData config channel kind command timeout).KeepsTime config call (fun _ _ => True)
      {} := by
  refine keeps_perform.mpr ⟨trivial, fun start => keepsTime_policyFor hbudget rfl fun flag => ?_⟩
  refine keepsTime_transferring (ClockStage.ready_first rfl (.inr ⟨start, rfl⟩)) fun began => ?_
  refine KeepsTime.bind (keepsTime_writeFramed_of_plain hplain) ?_
  rintro _ _ rfl
  refine keeps_perform.mpr ⟨trivial, fun _ => ?_⟩
  refine keepsTime_remainingSince fun taken left hleft => ?_
  have hready : ClockStage.Ready config call left ⟨[start, began] ++ [taken], [flag]⟩ :=
    ClockStage.ready_remaining rfl rfl rfl hleft
  exact keepsTime_finishTransfer hready

theorem keepsTime_sendBurst (channel : UInt8) (data : List UInt8) :
    (sendBurst config channel data).KeepsTime config (.burst channel data none) (fun _ _ => True)
      {} := by
  refine keepsTime_policyFor rfl rfl fun flag => ?_
  refine keepsTime_transferring (ClockStage.ready_first rfl (.inl rfl)) fun began => ?_
  refine keeps_perform.mpr ⟨trivial, fun start => ?_⟩
  exact (keepsTime_writePackets _ [began, start] []
    fun _ _ _ _ hburst => Bool.noConfusion hburst).settle

/-- The packets of a burst and the wait for its outcome have what the wait for the monitor has
left, and the latter what all of them have left. -/
theorem keepsTime_confirmBurst (channel : UInt8) (data : List UInt8) (timeout : Nat) :
    (confirmBurst config channel data timeout).KeepsTime config
      (.burst channel data (some timeout)) (fun _ _ => True) {} := by
  unfold confirmBurst
  split
  next => trivial
  next first rest _ =>
    refine keeps_perform.mpr ⟨trivial, fun start => keepsTime_policyFor rfl rfl fun flag => ?_⟩
    refine keepsTime_transferring (ClockStage.ready_first rfl (.inr ⟨start, rfl⟩)) fun begun => ?_
    refine keepsTime_remainingSince fun taken share hshare => ?_
    have hburst : (writeBurst config channel share (first :: rest)).KeepsTime config
        (.burst channel data (some timeout))
        (fun _ later => ∃ began looks, later = ⟨[start, begun, taken, began] ++ looks, [flag]⟩)
        ⟨[start, begun, taken], [flag]⟩ := by
      refine keeps_perform.mpr ⟨trivial, fun began => ?_⟩
      refine Keeps.mono (keepsTime_writePackets _ [start, begun, taken, began] []
        fun looks look left hleft _ => ?_) ?_ fun _ _ hpanics => hpanics
      · refine ⟨flag, start, begun, taken, began, looks, look, left, rfl, rfl, ?_⟩
        rw [WaitPolicy.handDown, hshare]
        change (share.remaining (look - began)).bind _ = _
        rw [hleft]
        rfl
      · rintro _ _ ⟨looks, rfl⟩
        exact ⟨began, looks, rfl⟩
    refine KeepsTime.bind hburst ?_
    rintro _ _ ⟨began, looks, rfl⟩
    refine keepsTime_remainingSince fun last left hleft => ?_
    exact keepsTime_finishTransfer (ClockStage.ready_remaining rfl rfl rfl hleft)

end Action

namespace Call

open AntHost.Action

variable {config : Config} {call : Call} {stage : ClockStage}

theorem keeps_ends {action : Action Reply}
    (hkeeps : action.KeepsTime config call (fun _ _ => True) stage) :
    action.run.Keeps ((clockConduct config).protocol call) ((clockConduct config).ends call)
      stage := by
  refine Program.Keeps.mono hkeeps ?_
  rintro (error | reply) later hends hpanic
  · cases hpanic
    exact hends rfl
  · cases hpanic

theorem keepsTime_acknowledge {action : Action Unit}
    {good : Unit → ClockStage → Prop} (hkeeps : action.KeepsTime config call good stage) :
    (acknowledge action).run.Keeps ((clockConduct config).protocol call)
      ((clockConduct config).ends call) stage := by
  have hdone : (acknowledge action).KeepsTime config call (fun _ _ => True) stage :=
    KeepsTime.bind hkeeps fun _ _ _ => trivial
  exact keeps_ends hdone

theorem keepsTime_fetch {action : Action Message} {good : Message → ClockStage → Prop}
    (hkeeps : action.KeepsTime config call good stage) :
    (fetch action).run.Keeps ((clockConduct config).protocol call)
      ((clockConduct config).ends call) stage := by
  have hdone : (fetch action).KeepsTime config call (fun _ _ => True) stage :=
    KeepsTime.bind hkeeps fun _ _ _ => trivial
  exact keeps_ends hdone

/-- Every call keeps to its time. -/
theorem keepsTime (config : Config) : (clockConduct config).SoundFor config := by
  intro onRouter call
  have hsend : ∀ frame, call.isTimedBurst = false →
      (writeFramed frame).KeepsTime config call (fun _ later => later = {}) {} :=
    fun _ => keepsTime_writeFramed_of_plain
  cases call with
  | command body timeout =>
      cases timeout with
      | none => exact keepsTime_acknowledge (hsend _ rfl)
      | some timeout => exact keepsTime_acknowledge (keepsTime_confirmCommand rfl rfl)
  | raw id payload => exact keepsTime_acknowledge (hsend _ rfl)
  | reset timeout =>
      cases timeout with
      | none => exact keepsTime_acknowledge (hsend _ rfl)
      | some timeout => exact keepsTime_fetch (keepsTime_confirmReset rfl rfl)
  | request channel messageId timeout =>
      cases timeout with
      | none => exact keepsTime_acknowledge (hsend _ rfl)
      | some timeout => exact keepsTime_fetch (keepsTime_requestMessage rfl rfl)
  | broadcast channel data timeout | acknowledged channel data timeout =>
      cases timeout with
      | none => exact keepsTime_acknowledge (hsend _ rfl)
      | some timeout => exact keepsTime_acknowledge (keepsTime_confirmData rfl rfl)
  | burst channel data timeout =>
      cases timeout with
      | none => exact keepsTime_acknowledge (keepsTime_sendBurst channel data)
      | some timeout => exact keepsTime_acknowledge (keepsTime_confirmBurst channel data timeout)
  | close => exact keepsTime_acknowledge (keepsTime_closeSession onRouter)

end Call

end AntHost
