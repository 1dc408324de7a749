import Phrasebook.Failure
import Phrasebook.Notice

/-!
# Reports

The outcome of a computation together with the notices that it gave on the way, whether it came to a
result or not.

## Contents
- `Report`: notices and outcome
- `Report.done`, `Report.stop`, `Report.say`, `Report.andThen`: putting reports together
-/

namespace Phrasebook

universe u v

/-- Notices, and a result or the fault that prevented it. -/
structure Report (α : Type u) where
  /-- What was reported, in order. -/
  notices : List Notice
  /-- The result, or the fault. -/
  outcome : Except Fault α

namespace Report

variable {α : Type u} {β : Type v}

/-- A result without notices. -/
def done (a : α) : Report α := ⟨[], .ok a⟩

/-- A fault without notices. -/
def stop (fault : Fault) : Report α := ⟨[], .error fault⟩

/-- An outcome without notices. -/
def ofExcept (outcome : Except Fault α) : Report α := ⟨[], outcome⟩

/-- A report with notices put in front. -/
def say (notices : List Notice) (r : Report α) : Report α := { r with notices := notices ++ r.notices }

/-- Goes on with the result; after a fault nothing more happens. -/
def andThen (r : Report α) (next : α → Report β) : Report β :=
  match r.outcome with
  | .error fault => ⟨r.notices, .error fault⟩
  | .ok a => say r.notices (next a)

/-- Going on comes to a result exactly when both parts do. -/
theorem andThen_eq_ok_iff {r : Report α} {next : α → Report β} {b : β} :
    (r.andThen next).outcome = .ok b ↔ ∃ a, r.outcome = .ok a ∧ (next a).outcome = .ok b := by
  unfold andThen
  cases r.outcome with
  | error fault => simp
  | ok a => simp [say]

/-- Going on comes to a fault when the first part does, or when the second does after it. -/
theorem andThen_eq_error_iff {r : Report α} {next : α → Report β} {fault : Fault} :
    (r.andThen next).outcome = .error fault ↔
      r.outcome = .error fault ∨ ∃ a, r.outcome = .ok a ∧ (next a).outcome = .error fault := by
  unfold andThen
  cases r.outcome with
  | error fault' => simp
  | ok a => simp [say]

end Report

end Phrasebook
