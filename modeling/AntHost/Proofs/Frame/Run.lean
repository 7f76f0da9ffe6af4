import AntHost.Proofs.Frame.Pull
/-!
# Runs of a deframer

A run pushes and pulls in any order. `Tracks` relates a deframer to the stream it was given and the
findings it has answered; pushes and pulls keep it. Hence the answers follow the reading of the
whole stream, and once two pulls in a row answer nothing they are all there.
-/

namespace AntHost

namespace Deframer

open AntHost.Stream (Step Incomplete)

inductive Action where
  | push (bytes : List UInt8)
  | pull
deriving DecidableEq, Repr

/-- The answers of a sequence of actions, and the deframer after it. -/
def run (deframer : Deframer) : List Action → List Answer × Deframer
  | [] => ([], deframer)
  | .push bytes :: rest => (deframer.push bytes).run rest
  | .pull :: rest =>
      let (answers, last) := deframer.pull.2.run rest
      (deframer.pull.1 :: answers, last)

/-- The stream that actions push, wherever it is cut. -/
def pushed : List Action → List UInt8
  | [] => []
  | .push bytes :: rest => bytes ++ pushed rest
  | .pull :: rest => pushed rest

/-- The actions end with two pulls in a row that answer nothing. -/
def Settles (deframer : Deframer) (actions : List Action) : Prop :=
  ∃ earlier answers, actions = earlier ++ [.pull, .pull] ∧
    (deframer.run actions).1 = answers ++ [.ok none, .ok none]

theorem run_append (deframer : Deframer) (first second : List Action) :
    deframer.run (first ++ second) =
      ((deframer.run first).1 ++ ((deframer.run first).2.run second).1,
        ((deframer.run first).2.run second).2) := by
  induction first generalizing deframer with
  | nil => rfl
  | cons action rest ih =>
      cases action with
      | push bytes => exact ih _
      | pull =>
          rw [List.cons_append, run, ih]
          rfl

theorem pushed_append (first second : List Action) :
    pushed (first ++ second) = pushed first ++ pushed second := by
  induction first with
  | nil => rfl
  | cons action rest ih =>
      cases action with
      | push bytes => rw [List.cons_append, pushed, pushed, ih, List.append_assoc]
      | pull => exact ih

theorem pushed_replicate_pull (count : Nat) : pushed (List.replicate count .pull) = [] := by
  induction count with
  | zero => rfl
  | succ count ih => exact ih

theorem found_append (first second : List Answer) :
    found (first ++ second) = found first ++ found second :=
  List.filterMap_append

theorem run_limit (deframer : Deframer) (actions : List Action) :
    (deframer.run actions).2.limit = deframer.limit := by
  induction actions generalizing deframer with
  | nil => rfl
  | cons action rest ih =>
      cases action with
      | push bytes => exact ih _
      | pull => exact (ih _).trans deframer.pull_limit

/-! ## The invariant -/

/-- A deframer that was given a stream and has answered findings: the reading of its unread bytes
continues them to the reading of the stream. -/
structure Tracks (stream : List UInt8) (findings : List Finding) (deframer : Deframer) : Prop where
  /-- A frame that was reported is still at the front. -/
  buffer_ne_nil : deframer.rejecting = true → deframer.buffer ≠ []
  read_eq : Stream.read deframer.limit stream =
    (findings ++ (Stream.read deframer.limit deframer.unread).1,
      (Stream.read deframer.limit deframer.unread).2)

namespace Tracks

variable {stream : List UInt8} {findings : List Finding} {deframer : Deframer}

/-- A fresh deframer owes nothing. -/
theorem fresh (limit : PayloadLimit) : Tracks [] [] { limit } :=
  ⟨fun hrejecting => absurd hrejecting Bool.false_ne_true, rfl⟩

theorem unread_push (hne : deframer.rejecting = true → deframer.buffer ≠ [])
    (bytes : List UInt8) : (deframer.push bytes).unread = deframer.unread ++ bytes := by
  cases hrejecting : deframer.rejecting with
  | true =>
      -- without the reported frame's sync byte, the first byte pushed would be lost
      obtain ⟨first, rest, hbuffer⟩ := List.exists_cons_of_ne_nil (hne hrejecting)
      simp [unread, push, hrejecting, hbuffer]
  | false => simp [unread, push, hrejecting]

theorem push (htracks : Tracks stream findings deframer) (bytes : List UInt8) :
    Tracks (stream ++ bytes) findings (deframer.push bytes) := by
  refine ⟨fun hrejecting => ?_, ?_⟩
  · exact List.append_ne_nil_of_left_ne_nil (htracks.buffer_ne_nil hrejecting) _
  · rw [unread_push htracks.buffer_ne_nil]
    change Stream.read deframer.limit (stream ++ bytes) = _
    rw [Stream.read_append, htracks.read_eq]
    change _ = (findings ++ (Stream.read deframer.limit (deframer.unread ++ bytes)).1,
      (Stream.read deframer.limit (deframer.unread ++ bytes)).2)
    rw [Stream.read_append deframer.limit deframer.unread, List.append_assoc]

theorem pull (htracks : Tracks stream findings deframer) :
    Tracks stream (findings ++ found [deframer.pull.1]) deframer.pull.2 := by
  have hfound : found [deframer.pull.1] = (finding? deframer.pull.1).toList := by
    cases hfinding : finding? deframer.pull.1 <;> simp [found, hfinding]
  refine ⟨?_, ?_⟩
  · have hpulled := deframer.pulled
    generalize deframer.pull.1 = answer, deframer.pull.2 = next at hpulled
    cases hpulled with
    | fault _ _ _ => exact fun _ => List.cons_ne_nil _ _
    | _ => exact fun hrejecting => absurd hrejecting Bool.false_ne_true
  · rw [deframer.pull_limit, htracks.read_eq, deframer.read_unread_pull, hfound,
      List.append_assoc]

/-- A run answers the next findings of its stream. -/
theorem run (htracks : Tracks stream findings deframer) (actions : List Action) :
    Tracks (stream ++ pushed actions) (findings ++ found (deframer.run actions).1)
      (deframer.run actions).2 := by
  induction actions generalizing stream findings deframer with
  | nil => simpa [pushed, Deframer.run, found] using htracks
  | cons action rest ih =>
      cases action with
      | push bytes =>
          have hnext := ih (htracks.push bytes)
          rw [List.append_assoc] at hnext
          exact hnext
      | pull =>
          have hnext := ih htracks.pull
          rw [List.append_assoc, ← found_append] at hnext
          exact hnext

/-- Two pulls in a row that answer nothing leave nothing to answer. -/
theorem settled (htracks : Tracks stream findings deframer) (hfirst : deframer.pull.1 = .ok none)
    (hsecond : deframer.pull.2.pull.1 = .ok none) :
    Stream.read deframer.limit stream = (findings, deframer.pull.2.pull.2.buffer) := by
  have hidle : deframer.pull.2.rejecting = false := by
    have hpulled := deframer.pulled
    rw [hfirst] at hpulled
    generalize deframer.pull.2 = next at hpulled
    cases hpulled <;> rfl
  have hrest : Stream.read deframer.limit deframer.pull.2.unread =
      ([], deframer.pull.2.pull.2.buffer) := by
    have hpulled := deframer.pull.2.pulled
    rw [hsecond] at hpulled
    rw [← deframer.pull_limit]
    generalize deframer.pull.2 = middle at hidle hpulled
    generalize middle.pull.2 = next at hpulled
    cases hpulled with
    | absorbed hrejecting => exact absurd (hidle.symm.trans hrejecting) Bool.false_ne_true
    | waiting _ hbytes =>
        rw [unread, if_neg (by simp [hidle]), ← read_fromSync, hbytes.read_eq]
  rw [htracks.read_eq, deframer.read_unread_pull, hrest, hfirst]
  simp [finding?]

end Tracks

/-! ## Runs that settle -/

theorem Settles.append {deframer : Deframer} {actions : List Action} (first : List Action)
    (hsettles : (deframer.run first).2.Settles actions) : deframer.Settles (first ++ actions) := by
  obtain ⟨earlier, answers, rfl, hanswers⟩ := hsettles
  refine ⟨first ++ earlier, (deframer.run first).1 ++ answers, ?_, ?_⟩
  · rw [List.append_assoc]
  · rw [run_append, hanswers, List.append_assoc]

/-- A settled run has answered all that its stream holds. -/
theorem Settles.read_eq {limit : PayloadLimit} {actions : List Action}
    (hsettles : Settles { limit } actions) :
    Stream.read limit (pushed actions) =
      (found (run { limit } actions).1, (run { limit } actions).2.buffer) := by
  obtain ⟨earlier, answers, rfl, hanswers⟩ := hsettles
  -- the invariant is used where the last two pulls begin
  have htracks := (Tracks.fresh limit).run earlier
  have hlimit := run_limit { limit } earlier
  rw [run_append] at hanswers
  rw [run_append, pushed_append]
  generalize run { limit } earlier = before at htracks hanswers hlimit
  obtain ⟨hearlier, hlast⟩ := List.append_inj' hanswers rfl
  change [before.2.pull.1, before.2.pull.2.pull.1] = [.ok none, .ok none] at hlast
  obtain ⟨hfirst, hsecond⟩ := List.cons.inj hlast
  have hread := htracks.settled hfirst (List.cons.inj hsecond).1
  rw [hlimit] at hread
  change Stream.read limit (pushed earlier ++ []) =
    (found (before.1 ++ [before.2.pull.1, before.2.pull.2.pull.1]), before.2.pull.2.pull.2.buffer)
  have hnothing : found [.ok none, .ok none] = [] := rfl
  rw [hlast, found_append, hnothing, List.append_nil, List.append_nil]
  exact hread

theorem pull_of_incomplete {deframer : Deframer} (hidle : deframer.rejecting = false)
    (hbytes : Incomplete deframer.limit deframer.buffer) : deframer.pull.1 = .ok none := by
  have hread := deframer.read_unread_pull
  rw [unread, if_neg (by simp [hidle]), hbytes.read_eq] at hread
  have hnone := (List.append_eq_nil_iff.mp (congrArg Prod.fst hread).symm).1
  have hpulled := deframer.pulled
  generalize deframer.pull.1 = answer, deframer.pull.2 = next at hpulled hnone ⊢
  cases hpulled with
  | absorbed _ => rfl
  | waiting _ _ => rfl
  | message _ _ => cases hnone
  | fault _ _ _ => cases hnone

/-- Pulling on comes to two answers in a row that are nothing. -/
theorem exists_settles_of_idle (deframer : Deframer) (hidle : deframer.rejecting = false) :
    ∃ pulls, deframer.Settles (List.replicate pulls .pull) := by
  induction hsize : deframer.buffer.length using Nat.strongRecOn generalizing deframer with
  | ind size ih =>
      have haligned := length_fromSync_le deframer.buffer
      have hpulled := deframer.pulled
      generalize hanswer : deframer.pull.1 = answer, hnext : deframer.pull.2 = next at hpulled
      cases hpulled with
      | absorbed hrejecting => exact absurd (hidle.symm.trans hrejecting) Bool.false_ne_true
      | waiting _ hbytes =>
          refine ⟨2, [], [], rfl, ?_⟩
          change [deframer.pull.1, deframer.pull.2.pull.1] = _
          rw [hanswer, hnext, pull_of_incomplete rfl hbytes]
          rfl
      | @message message rest _ hstep =>
          obtain ⟨pulls, hpulls⟩ := ih rest.length (by have := hstep.length_lt; omega)
            { deframer with buffer := rest, rejecting := false } rfl rfl
          rw [← hnext] at hpulls
          exact ⟨pulls + 1, hpulls.append [.pull]⟩
      | @fault error rest _ hbuffer _ =>
          rw [hbuffer, List.length_cons] at haligned
          obtain ⟨pulls, hpulls⟩ := ih (fromSync rest).length
            (by have := length_fromSync_le rest; omega)
            { deframer with buffer := fromSync rest, rejecting := false } rfl rfl
          -- a fault takes two pulls, and only the second shortens the buffer
          have habsorbed : deframer.pull.2.pull.2 =
              { deframer with buffer := fromSync rest, rejecting := false } := by
            rw [hnext, pull_of_rejecting rfl]
            rfl
          rw [← habsorbed] at hpulls
          exact ⟨pulls + 2, hpulls.append [.pull, .pull]⟩

theorem exists_settles (deframer : Deframer) (actions : List Action) :
    ∃ pulls, deframer.Settles (actions ++ List.replicate pulls .pull) := by
  generalize hlast : (deframer.run actions).2 = last
  cases hrejecting : last.rejecting with
  | false =>
      obtain ⟨pulls, hpulls⟩ := exists_settles_of_idle last hrejecting
      exact ⟨pulls, (hlast ▸ hpulls).append actions⟩
  | true =>
      have hidle : last.pull.2.rejecting = false := by rw [pull_of_rejecting hrejecting]
      obtain ⟨pulls, hpulls⟩ := exists_settles_of_idle last.pull.2 hidle
      have hsettles : last.Settles (List.replicate (pulls + 1) .pull) := hpulls.append [.pull]
      exact ⟨pulls + 1, (hlast ▸ hsettles).append actions⟩

/-- The answers follow the reading of the whole stream. Two pulls in a row that answer nothing show
that all of it was answered and only its unread rest is kept; so neither the cuts of the stream nor
the moments of the pulls matter. -/
theorem run_follows_read (limit : PayloadLimit) (actions : List Action) :
    found (run { limit } actions).1 <+: (Stream.read limit (pushed actions)).1 ∧
      (Settles { limit } actions →
        Stream.read limit (pushed actions) =
          (found (run { limit } actions).1, (run { limit } actions).2.buffer)) ∧
      ∀ others, pushed others = pushed actions → Settles { limit } actions →
        Settles { limit } others →
        found (run { limit } others).1 = found (run { limit } actions).1 ∧
          (run { limit } others).2.buffer = (run { limit } actions).2.buffer := by
  refine ⟨?_, fun hsettles => hsettles.read_eq, ?_⟩
  · have hread := ((Tracks.fresh limit).run actions).read_eq
    rw [run_limit] at hread
    change Stream.read limit (pushed actions) = _ at hread
    rw [hread]
    exact List.prefix_append _ _
  · intro others hpushed hactions hothers
    have hread := hothers.read_eq
    rw [hpushed, hactions.read_eq] at hread
    exact ⟨(congrArg Prod.fst hread).symm, (congrArg Prod.snd hread).symm⟩

/-- An excessive length is refused while the next frame is cut in the middle, and once more in a
single chunk. -/
theorem run_follows_read_of_cut :
    Settles { limit := .ofNat 9 }
        [.push [0x00, 0xA4, 0x0A], .pull, .push [0x4E, 0xA4], .pull, .push [0x01, 0x6F], .pull,
          .pull, .push [0x20, 0xEA], .pull, .pull, .pull] ∧
      Stream.read (.ofNat 9) [0x00, 0xA4, 0x0A, 0x4E, 0xA4, 0x01, 0x6F, 0x20, 0xEA] =
        ([.fault (.oversize 10 9), .message ⟨0x6F, [0x20], by decide⟩], []) ∧
      found (run { limit := .ofNat 9 }
          [.push [0x00, 0xA4, 0x0A, 0x4E, 0xA4, 0x01, 0x6F, 0x20, 0xEA], .pull, .pull, .pull,
            .pull, .pull]).1 =
        [.fault (.oversize 10 9), .message ⟨0x6F, [0x20], by decide⟩] := by
  have hcut : Settles { limit := .ofNat 9 }
      [.push [0x00, 0xA4, 0x0A], .pull, .push [0x4E, 0xA4], .pull, .push [0x01, 0x6F], .pull,
        .pull, .push [0x20, 0xEA], .pull, .pull, .pull] :=
    ⟨[.push [0x00, 0xA4, 0x0A], .pull, .push [0x4E, 0xA4], .pull, .push [0x01, 0x6F], .pull,
        .pull, .push [0x20, 0xEA], .pull],
      [.ok none, .error (.oversize 10 9), .ok none, .ok none,
        .ok (some ⟨0x6F, [0x20], by decide⟩)], rfl, rfl⟩
  have hwhole : Settles { limit := .ofNat 9 }
      [.push [0x00, 0xA4, 0x0A, 0x4E, 0xA4, 0x01, 0x6F, 0x20, 0xEA], .pull, .pull, .pull, .pull,
        .pull] :=
    ⟨[.push [0x00, 0xA4, 0x0A, 0x4E, 0xA4, 0x01, 0x6F, 0x20, 0xEA], .pull, .pull, .pull],
      [.error (.oversize 10 9), .ok none, .ok (some ⟨0x6F, [0x20], by decide⟩)], rfl, rfl⟩
  have hfollows := run_follows_read (.ofNat 9)
    [.push [0x00, 0xA4, 0x0A], .pull, .push [0x4E, 0xA4], .pull, .push [0x01, 0x6F], .pull,
      .pull, .push [0x20, 0xEA], .pull, .pull, .pull]
  refine ⟨hcut, hfollows.2.1 hcut, (hfollows.2.2 _ ?_ hcut hwhole).1⟩
  rfl

end Deframer

end AntHost
