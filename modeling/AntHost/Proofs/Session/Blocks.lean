import AntHost.Proofs.Session.Holder
/-!
# Frames of bursts stay together

A burst writes only while it holds the transfer monitor. So the frames of all bursts are one block
for each thread that was given the monitor, in that order, and each block is the beginning of its
call's own frames.
-/

namespace AntHost

variable {H β : Type}

namespace Op

/-- The frames that an operation hands to the link. -/
def frames : Op → List (List UInt8)
  | write frame => [frame]
  | _ => []

variable {op : Op}

theorem exists_write (hframes : op.frames ≠ []) : ∃ frame, op = write frame := by
  cases op with
  | write frame => exact ⟨frame, rfl⟩
  | _ => exact absurd rfl hframes

/-- What a burst hands to the link is the first of what it has still to write. -/
theorem frames_append_rest {burst? : Option UInt8} {stage : TransferStage}
    (hallows : stage.Allows burst? op) (hburst : burst?.isSome) (reply : op.Reply) :
    op.frames ++ (stage.next op reply).rest = stage.rest := by
  cases op with
  | write frame => exact List.cons_head?_tail (hallows hburst).2.2
  | beginTransfer => rcases reply with error | ⟨⟩ <;> rfl
  | awaitOutcome => rcases reply with error | (_ | _) <;> rfl
  | _ => rfl

end Op

namespace Machine

/-- The frames that a thread has written. -/
def written (machine : Machine H β) (thread : Nat) : List (List UInt8) :=
  (machine.writes.filter fun entry => entry.1 = thread).map Prod.snd

/-- The channel of a thread's burst. -/
def burst? (events : List (Event H β)) (thread : Nat) : Option UInt8 :=
  (calls events)[thread]?.bind Call.burst?

/-- Whether the call of a thread is a burst. -/
def bursts (events : List (Event H β)) (thread : Nat) : Bool := (burst? events thread).isSome

/-- The frames of all bursts are blocks in the order in which the monitor was given away. -/
def InBlocks (bursts : Nat → Bool) (grants : List Nat) (writes : List (Nat × List UInt8)) : Prop :=
  writes.filter (fun entry => bursts entry.1) =
    (grants.filter bursts).flatMap fun thread => writes.filter fun entry => entry.1 = thread

namespace InBlocks

variable {bursts : Nat → Bool} {grants : List Nat} {writes : List (Nat × List UInt8)}
  {thread : Nat}

theorem filter_concat_of_ne {other : Nat} (hne : thread ≠ other) (frame : List UInt8) :
    (writes ++ [(thread, frame)]).filter (fun entry => entry.1 = other) =
      writes.filter fun entry => entry.1 = other := by
  simp [List.filter_append, hne]

theorem congr {later : Nat → Bool} (hblocks : InBlocks bursts grants writes)
    (hwrites : ∀ entry ∈ writes, later entry.1 = bursts entry.1)
    (hgrants : ∀ thread ∈ grants, later thread = bursts thread) :
    InBlocks later grants writes := by
  rw [InBlocks, List.filter_congr hwrites, List.filter_congr hgrants]
  exact hblocks

/-- A thread that has written nothing yet may be given the monitor. -/
theorem grant (hblocks : InBlocks bursts grants writes)
    (hnone : bursts thread = true → ∀ entry ∈ writes, entry.1 ≠ thread) :
    InBlocks bursts (grants ++ [thread]) writes := by
  rw [InBlocks, List.filter_append, List.flatMap_append, ← hblocks]
  cases hburst : bursts thread with
  | false => simp [hburst]
  | true =>
      have hempty : writes.filter (fun entry => entry.1 = thread) = [] := by
        rw [List.filter_eq_nil_iff]
        intro entry hentry
        simpa using hnone hburst entry hentry
      simp [hburst, hempty]

/-- Only the block of the thread that writes grows. -/
theorem write_of_free (hblocks : InBlocks bursts grants writes) (hfree : bursts thread = false)
    (frame : List UInt8) : InBlocks bursts grants (writes ++ [(thread, frame)]) := by
  rw [InBlocks, List.filter_append]
  have hgrants : (grants.filter bursts).flatMap (fun other =>
        (writes ++ [(thread, frame)]).filter fun entry => entry.1 = other) =
      (grants.filter bursts).flatMap fun other =>
        writes.filter fun entry => entry.1 = other := by
    apply List.flatMap_congr
    intro other hother
    apply filter_concat_of_ne
    rintro rfl
    rw [List.mem_filter, hfree] at hother
    cases hother.2
  rw [hgrants, ← hblocks]
  simp [hfree]

theorem write_of_last (hblocks : InBlocks bursts grants writes) (hnodup : grants.Nodup)
    (hlast : grants.getLast? = some thread) (hburst : bursts thread = true)
    (frame : List UInt8) : InBlocks bursts grants (writes ++ [(thread, frame)]) := by
  obtain ⟨earlier, rfl⟩ := List.getLast?_eq_some_iff.mp hlast
  have hearlier : (earlier.filter bursts).flatMap (fun other =>
        (writes ++ [(thread, frame)]).filter fun entry => entry.1 = other) =
      (earlier.filter bursts).flatMap fun other =>
        writes.filter fun entry => entry.1 = other := by
    apply List.flatMap_congr
    intro other hother
    apply filter_concat_of_ne
    rintro rfl
    exact List.disjoint_of_nodup_append hnodup (List.mem_of_mem_filter hother)
      (List.mem_singleton_self _)
  rw [InBlocks, List.filter_append, List.flatMap_append] at hblocks
  rw [InBlocks, List.filter_append, List.filter_append, List.flatMap_append, hearlier, hblocks]
  simp [hburst]

end InBlocks

/-! ## The invariant -/

theorem bursts_concat_of_none {events : List (Event H β)} {event : Event H β}
    (hnone : event.call? = none) : bursts (events ++ [event]) = bursts events := by
  funext thread
  rw [bursts, bursts, burst?, burst?, calls_concat_of_none hnone]

theorem calls_begin (events : List (Event H β)) (call : Call) (onRouter : Bool) :
    calls (events ++ [.begin call onRouter]) = calls events ++ [call] :=
  calls_concat _ _

theorem bursts_begin_of_ne {events : List (Event H β)} {call : Call} {onRouter : Bool}
    {thread : Nat} (hne : thread ≠ (calls events).length) :
    bursts (events ++ [.begin call onRouter]) thread = bursts events thread := by
  rw [bursts, bursts, burst?, burst?, calls_begin, getElem?_concat_of_ne hne]

theorem burst?_concat_of_lt {events : List (Event H β)} {thread : Nat}
    (hlt : thread < (calls events).length) (event : Event H β) :
    burst? (events ++ [event]) thread = burst? events thread := by
  rw [burst?, burst?, calls_concat, List.getElem?_append_left hlt]

theorem writes_record (machine : Machine H β) (thread : Nat) (op : Op) :
    (machine.record thread op).writes = machine.writes ++ op.frames.map (Prod.mk thread) := by
  cases op with
  | write frame => rfl
  | _ => exact (List.append_nil _).symm

/-- What is written after an operation was written before, or is a frame of its thread. -/
theorem mem_writes_record {machine : Machine H β} {thread : Nat} {op : Op}
    {entry : Nat × List UInt8} (hentry : entry ∈ (machine.record thread op).writes) :
    entry ∈ machine.writes ∨ entry.1 = thread ∧ op.frames ≠ [] := by
  rw [writes_record, List.mem_append, List.mem_map] at hentry
  refine hentry.imp_right ?_
  rintro ⟨frame, hframe, rfl⟩
  exact ⟨rfl, List.ne_nil_of_mem hframe⟩

theorem begun_update {stages : Nat → TransferStage} {thread other : Nat} {op : Op}
    {reply : op.Reply} (hbegun : (stages other).begun = true) :
    (Function.update stages thread ((stages thread).next op reply) other).begun = true := by
  by_cases hsame : other = thread
  · subst hsame
    rw [Function.update_self, Op.begun_next, hbegun, Bool.true_or]
  · rwa [Function.update_of_ne hsame]

section Record

variable {machine : Machine H β} {thread other : Nat} {session : Session H β}
  {threads : List (Program (Except CallError Reply))}

theorem written_record_self (op : Op) :
    written { machine.record thread op with session, threads } thread =
      machine.written thread ++ op.frames := by
  change ((machine.record thread op).writes.filter _).map Prod.snd = _
  rw [writes_record, List.filter_append, List.map_append, List.filter_map]
  simp [written, Function.comp_def]

theorem written_record_of_ne (op : Op) (hne : other ≠ thread) :
    written { machine.record thread op with session, threads } other = machine.written other := by
  change ((machine.record thread op).writes.filter _).map Prod.snd = _
  rw [writes_record, List.filter_append, List.map_append, List.filter_map]
  simp [written, Function.comp_def, Ne.symm hne]

end Record

variable [DecidableEq β]

/-- What the threads have written is in blocks, and what a burst has written and has still to write
are its frames. -/
structure Written (config : Config) (events : List (Event H β)) (machine : Machine H β)
    (stages : Nat → TransferStage) : Prop where
  lt : ∀ entry ∈ machine.writes, entry.1 < machine.threads.length
  begun : ∀ entry ∈ machine.writes, bursts events entry.1 = true →
    (stages entry.1).begun = true
  rest : ∀ thread call, (calls events)[thread]? = some call → call.burst?.isSome →
    machine.written thread ++ (stages thread).rest = call.frames
  blocks : InBlocks (bursts events) ((start config : Machine H β).grants events) machine.writes

namespace Written

variable {config : Config} {events : List (Event H β)} {machine next : Machine H β}
  {event : Event H β} {stages later : Nat → TransferStage}

theorem fresh (config : Config) :
    Written config [] (start config : Machine H β) fun _ => {} where
  lt _ hentry := nomatch hentry
  begun _ hentry := nomatch hentry
  rest _ _ hcall := nomatch hcall
  blocks := rfl

/-- A thread without a call has written nothing. -/
theorem written_eq_nil (hwritten : Written config events machine stages) {thread : Nat}
    (hge : machine.threads.length ≤ thread) : machine.written thread = [] := by
  rw [Machine.written, List.map_eq_nil_iff, List.filter_eq_nil_iff]
  intro entry hentry
  have hlt := hwritten.lt entry hentry
  simp only [decide_eq_true_eq]
  omega

/-- A thread that has just begun has written nothing. -/
theorem begin (hwritten : Written config events machine stages)
    (hheld : Held config events machine stages) (call : Call) (onRouter : Bool) :
    Written config (events ++ [.begin call onRouter])
      { machine with threads := machine.threads ++ [call.program machine.session.config onRouter] }
      (Function.update stages machine.threads.length { rest := call.frames }) where
  lt entry hentry := by
    rw [List.length_append]
    exact Nat.lt_add_right _ (hwritten.lt entry hentry)
  begun entry hentry hburst := by
    have hne := Nat.ne_of_lt (hwritten.lt entry hentry)
    rw [bursts_begin_of_ne (hheld.length ▸ hne)] at hburst
    rw [Function.update_of_ne hne]
    exact hwritten.begun entry hentry hburst
  rest thread own hcall hburst := by
    rw [calls_begin] at hcall
    by_cases hnew : thread = machine.threads.length
    · have hnone := hwritten.written_eq_nil (Nat.le_of_eq hnew.symm)
      rw [hnew, hheld.length, List.getElem?_concat_length] at hcall
      cases hcall
      change machine.written thread ++ _ = _
      rw [hnone, hnew, Function.update_self, List.nil_append]
    · rw [getElem?_concat_of_ne (hheld.length ▸ hnew)] at hcall
      rw [Function.update_of_ne hnew]
      exact hwritten.rest thread own hcall hburst
  blocks := by
    have hgranted : machine.granted? (.begin call onRouter) = none := rfl
    rw [grants_concat hheld.reached, hgranted, Option.toList_none, List.append_nil]
    refine hwritten.blocks.congr (fun entry hentry => ?_) fun thread hthread => ?_
    · exact bursts_begin_of_ne (hheld.length ▸ Nat.ne_of_lt (hwritten.lt entry hentry))
    · have hlt := hheld.lt thread ((hheld.holding.mem thread).mp hthread)
      exact bursts_begin_of_ne (hheld.length ▸ Nat.ne_of_lt hlt)

section Perform

variable {thread : Nat} {result : Except TransportError Unit} {session : Session H β} {op : Op}
  {rest : op.Reply → Program (Except CallError Reply)} {reply : op.Reply}

/-- A frame adds to its own thread's block, and who is given the monitor opens an empty one. -/
theorem perform_blocks (hwritten : Written config events machine stages)
    (hheld : Held config events machine stages)
    (hthread : machine.threads[thread]? = some (.perform op rest)) :
    InBlocks (bursts events)
      ((start config : Machine H β).grants events ++
        (if op.grants reply then some thread else none).toList)
      (machine.record thread op).writes := by
  obtain ⟨call, hcall, hallows, _⟩ := hheld.allows hthread
  have hburst : bursts events thread = call.burst?.isSome := by rw [bursts, burst?, hcall]; rfl
  by_cases hframes : op.frames = []
  · rw [writes_record, hframes, List.map_nil, List.append_nil]
    cases hgrants : op.grants reply with
    | false =>
        rw [if_neg Bool.false_ne_true, Option.toList_none, List.append_nil]
        exact hwritten.blocks
    | true =>
        -- A burst writes after it was given the monitor only, so its block is still empty.
        refine hwritten.blocks.grant fun hown entry hentry hsame => ?_
        subst hsame
        have hbegun := hwritten.begun entry hentry hown
        rw [Op.first_of_grants hallows hgrants] at hbegun
        cases hbegun
  · obtain ⟨frame, rfl⟩ := Op.exists_write hframes
    change InBlocks _ (_ ++ []) (machine.writes ++ [(thread, frame)])
    rw [List.append_nil]
    cases hown : bursts events thread with
    | false => exact hwritten.blocks.write_of_free hown frame
    | true =>
        have hholds := (hallows (hburst ▸ hown)).1
        exact hwritten.blocks.write_of_last hheld.holding.nodup
          (hheld.holding.last thread hholds) hown frame

theorem perform (hwritten : Written config events machine stages)
    (hheld : Held config events machine stages)
    (hthread : machine.threads[thread]? = some (.perform op rest))
    (hexec : op.exec machine.now result machine.session = some (reply, session)) :
    Written config (events ++ [.perform thread result])
      { machine.record thread op with
        session, threads := machine.threads.set thread (rest reply) }
      (Function.update stages thread ((stages thread).next op reply)) where
  lt entry hentry := by
    rw [List.length_set]
    rcases mem_writes_record hentry with hold | ⟨rfl, _⟩
    · exact hwritten.lt entry hold
    · exact (List.getElem?_eq_some_iff.mp hthread).1
  begun entry hentry hown := by
    rw [bursts_concat_of_none rfl] at hown
    apply begun_update
    rcases mem_writes_record hentry with hold | ⟨rfl, hframes⟩
    · exact hwritten.begun entry hold hown
    · obtain ⟨call, hcall, hallows, _⟩ := hheld.allows hthread
      obtain ⟨frame, rfl⟩ := Op.exists_write hframes
      rw [bursts, burst?, hcall] at hown
      exact hheld.holding.begun _ (hallows hown).1
  rest other call hcall hburst := by
    rw [calls_concat_of_none rfl] at hcall
    rw [← hwritten.rest other call hcall hburst]
    by_cases hsame : other = thread
    · subst hsame
      obtain ⟨own, hown, hallows, _⟩ := hheld.allows hthread
      cases hown.symm.trans hcall
      rw [Function.update_self, written_record_self, List.append_assoc,
        Op.frames_append_rest hallows hburst]
    · rw [Function.update_of_ne hsame, written_record_of_ne op hsame]
  blocks := by
    rw [grants_concat hheld.reached, granted?_of_performed hthread hexec,
      bursts_concat_of_none rfl]
    exact hwritten.perform_blocks hheld hthread

end Perform

/-- What is not done by a thread writes nothing. -/
theorem outside (hwritten : Written config events machine stages)
    (hheld : Held config events machine stages) (hnone : event.call? = none)
    (hother : ∀ thread result, event ≠ .perform thread result)
    (hthreads : next.threads = machine.threads) (hwrites : next.writes = machine.writes) :
    Written config (events ++ [event]) next stages where
  lt := by
    rw [hthreads, hwrites]
    exact hwritten.lt
  begun := by
    rw [bursts_concat_of_none hnone, hwrites]
    exact hwritten.begun
  rest := by
    have hsame : ∀ thread, next.written thread = machine.written thread := by
      intro thread
      rw [written, written, hwrites]
    rw [calls_concat_of_none hnone]
    intro thread call hcall hburst
    rw [hsame]
    exact hwritten.rest thread call hcall hburst
  blocks := by
    rw [grants_concat hheld.reached, granted?_of_other hother, Option.toList_none,
      List.append_nil, bursts_concat_of_none hnone, hwrites]
    exact hwritten.blocks

theorem step (hwritten : Written config events machine stages)
    (hheld : Held config events machine stages) (hmoves : Moves machine stages event next later) :
    Written config (events ++ [event]) next later := by
  cases hmoves with
  | begun call onRouter => exact hwritten.begin hheld call onRouter
  | performed hthread hexec => exact hwritten.perform hheld hthread hexec
  | routed message => exact hwritten.outside hheld rfl nofun rfl rfl
  | changed hnone hother => exact hwritten.outside hheld hnone hother rfl rfl

end Written

end Machine

end AntHost
