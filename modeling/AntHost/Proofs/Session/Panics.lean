import AntHost.Proofs.Session.Timekeeping
/-!
# When calls panic

A clock that does not run back shows a call its instants in order, so a wait of the call begins at
most as much later as the clock has run since. Its deadline is beyond the clock only if the call's
whole time from now on is.
-/

namespace AntHost

/-- The clock cannot hold the time of a call from now on. -/
def Call.Outlasts (call : Call) (now : Nat) : Prop :=
  call.budget ≠ 0 ∧ clockEnd ≤ now + call.budget

/-- The readings of a clock that did not run back and shows this now. -/
def ReadUpTo (now : Nat) (readings : List Nat) : Prop :=
  readings.Pairwise (· ≤ ·) ∧ ∀ reading ∈ readings, reading ≤ now

theorem ReadUpTo.mono {now later : Nat} {readings : List Nat} (hread : ReadUpTo now readings)
    (hlater : now ≤ later) : ReadUpTo later readings :=
  ⟨hread.1, fun reading hreading => Nat.le_trans (hread.2 reading hreading) hlater⟩

theorem ReadUpTo.concat {now : Nat} {readings : List Nat} (hread : ReadUpTo now readings) :
    ReadUpTo now (readings ++ [now]) := by
  refine ⟨List.pairwise_append.mpr ⟨hread.1, List.pairwise_singleton _ _, ?_⟩, ?_⟩
  · intro reading hreading last hlast
    cases List.mem_singleton.mp hlast
    exact hread.2 reading hreading
  · intro reading hreading
    rcases List.mem_append.mp hreading with hold | hnew
    · exact hread.2 reading hold
    · exact Nat.le_of_eq (List.mem_singleton.mp hnew)

/-- Whoever looks at the clock sees what it shows. -/
theorem ReadUpTo.next {H β : Type} {now : Nat} {op : Op} {reply : op.Reply}
    {session after : Session H β} {link : Except TransportError Unit} {stage : ClockStage}
    (hread : ReadUpTo now stage.readings)
    (hexec : op.exec now link session = some (reply, after)) :
    ReadUpTo now (stage.next op reply).readings := by
  cases op with
  | now =>
      cases hexec
      exact hread.concat
  | _ => exact hread

/-- The instants of a wait are in order and not past now. -/
theorem SharedAt.inOrder {readings : List Nat} {start taken began now : Nat}
    (hshared : SharedAt readings start taken began) (hread : ReadUpTo now readings) :
    start ≤ taken ∧ taken ≤ began ∧ began ≤ now := by
  cases hshared with
  | sole =>
      exact ⟨Nat.le_refl _, Nat.le_refl _, hread.2 _ (List.mem_singleton_self _)⟩
  | @later before _ _ _ hstart =>
      obtain ⟨hbefore, _, hlast⟩ := List.pairwise_append.mp hread.1
      refine ⟨?_, hlast _ (by simp) _ (List.mem_singleton_self _), hread.2 _ (by simp)⟩
      cases before with
      | nil =>
          cases hstart
          exact Nat.le_refl _
      | cons first rest =>
          cases hstart
          exact (List.pairwise_append.mp hbefore).2.2 _ List.mem_cons_self _
            (List.mem_singleton_self _)

/-- A wait that begins shares its call's one timeout, later by what passed since the look before. -/
theorem ClockStage.Begins.shares {config : Config} {call : Call} {stage : ClockStage}
    {policy : WaitPolicy} {began now : Nat} (hbegins : stage.Begins config call policy began)
    (hread : ReadUpTo now stage.readings) :
    ∃ start taken, SharedAt stage.readings start taken began ∧
      start ≤ taken ∧ taken ≤ began ∧ began ≤ now ∧
      (call.policy config policy.watchesCancel).Shares start policy began (began - taken) := by
  obtain ⟨_, start, taken, hshared, hshare⟩ := hbegins
  obtain ⟨htaken, hbegan, hnow⟩ := hshared.inOrder hread
  have horder : Handover.InOrder start [⟨taken, began⟩] := ⟨htaken, hbegan, trivial⟩
  exact ⟨start, taken, hshared, htaken, hbegan, hnow, WaitPolicy.shares_of_handDown horder hshare⟩

namespace Machine

variable {H β : Type} {config : Config} {events : List (Event H β)} {machine next : Machine H β}
  {event : Event H β} {stages later : Nat → ClockStage} {thread : Nat} {call : Call}

/-- What the clock showed the threads, it showed in order and by now. -/
def ReadInOrder (machine : Machine H β) (stages : Nat → ClockStage) : Prop :=
  ∀ thread, ReadUpTo machine.now (stages thread).readings

variable [DecidableEq β]

theorem ReadInOrder.step (hread : ReadInOrder machine stages)
    (hconducted : Conducted (clockConduct config) config events machine stages)
    (hadvances : Advances (clockConduct config) machine stages event next later) :
    ReadInOrder next later := by
  have hnow := hadvances.now_le
  intro thread
  cases hadvances with
  | begun call onRouter =>
      have hsame : Function.update stages machine.threads.length
          ((clockConduct config).enter call) = stages := hconducted.update_idle
      rw [hsame]
      exact (hread thread).mono hnow
  | @performed performer link op rest reply session hthread hexec =>
      by_cases hsame : performer = thread
      · subst hsame
        rw [Function.update_self]
        exact ((hread performer).next hexec).mono hnow
      · rw [Function.update_of_ne (Ne.symm hsame)]
        exact (hread thread).mono hnow
  | routed | changed => exact (hread thread).mono hnow

theorem outlasts_of_overflows {stage : ClockStage} {now : Nat}
    (hoverflows : stage.Overflows config call) (hread : ReadUpTo now stage.readings) :
    call.Outlasts now := by
  obtain ⟨policy, began, overflow, hbegins, hover⟩ := hoverflows
  obtain ⟨start, taken, _, htaken, hbegan, hnow, hshares⟩ := hbegins.shares hread
  rw [hshares.deadline] at hover
  obtain ⟨hfinite, hend⟩ := WaitPolicy.deadline_eq_error_iff.mp hover
  refine ⟨hfinite, ?_⟩
  change clockEnd ≤ start + (began - taken) + call.budget at hend
  omega

/-- In every run a call panics only if the clock cannot hold its time. -/
theorem outlasts_of_panicked (hrun : (start config).run events = some machine)
    (hcall : (calls events)[thread]? = some call)
    (hpanic : machine.result? thread = some (.error .panicked)) : call.Outlasts machine.now := by
  have hfresh : ReadInOrder (start config : Machine H β) fun _ => {} :=
    fun _ => ⟨List.Pairwise.nil, nofun⟩
  obtain ⟨stages, hconducted, hread⟩ := Conducted.run (Call.keepsTime config)
    (fun _ middle current => ReadInOrder middle current)
    (.fresh (clockConduct config) config) hfresh
    (fun _ _ _ _ _ _ _ hconducted hread _ hadvances => hread.step hconducted hadvances) hrun
  exact outlasts_of_overflows (hconducted.ends hcall hpanic rfl) (hread thread)

end Machine

end AntHost
