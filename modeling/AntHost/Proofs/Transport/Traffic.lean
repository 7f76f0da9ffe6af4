import AntHost.Transport.Error
/-!
# Outcomes of a device

What a device will do is a list of outcomes, and one more outcome that it repeats for ever once the
list is used up.
-/

namespace AntHost

section Script

variable {α β : Type} {after : α}

/-- These outcomes come next in a script that goes on with `after` once it is used up. -/
def ComesNext (after : α) : List α → List α → Prop
  | _, [] => True
  | script, outcome :: later => outcome = script.headD after ∧ ComesNext after script.tail later

theorem ComesNext.append {script first second : List α} (hfirst : ComesNext after script first)
    (hsecond : ComesNext after (script.drop first.length) second) :
    ComesNext after script (first ++ second) := by
  induction first generalizing script with
  | nil => exact hsecond
  | cons outcome later ih =>
      refine ⟨hfirst.1, ih hfirst.2 ?_⟩
      rwa [List.drop_tail]

end Script

/-- The bytes that an answer hands out. -/
def handed {ε : Type} : Except ε (List UInt8) → List UInt8
  | .ok bytes => bytes
  | .error _ => []

@[simp] theorem handed_mapError {ε ε' : Type} (f : ε → ε') (answer : Except ε (List UInt8)) :
    handed (answer.mapError f) = handed answer := by
  cases answer with
  | error error => rfl
  | ok bytes => rfl

end AntHost
