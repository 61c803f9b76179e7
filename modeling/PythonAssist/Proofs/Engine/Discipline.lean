import PythonAssist.Proofs.Engine.Calls
import PythonAssist.Proofs.Text.Splitting

set_option autoImplicit false

namespace PythonAssist

variable {W : Type}

namespace ScriptCall

def Live (calls : List ScriptCall) (script : ScriptId) : Prop :=
  .opened script ∈ calls ∧ .released script ∉ calls

instance (calls : List ScriptCall) (script : ScriptId) : Decidable (Live calls script) :=
  inferInstanceAs (Decidable (_ ∧ _))

def Allowed (calls : List ScriptCall) : ScriptCall → Prop
  | .opened script => .opened script ∉ calls
  | .asked script => Live calls script
  | .released script => Live calls script

def Disciplined (calls : List ScriptCall) : Prop :=
  ∀ before call later, calls = before ++ call :: later → Allowed before call

variable {calls : List ScriptCall} {script : ScriptId}

theorem Disciplined.empty : Disciplined [] := by
  intro before call later same
  simp at same

theorem Disciplined.snoc {call : ScriptCall} (disciplined : Disciplined calls)
    (allowed : Allowed calls call) : Disciplined (calls ++ [call]) := by
  intro before other later same
  rcases snoc_cut same with ⟨rfl, rfl, -⟩ | ⟨rest, earlier, -⟩
  next => exact allowed
  next => exact disciplined before other rest earlier

theorem Disciplined.opened_of_released (disciplined : Disciplined calls)
    (released : .released script ∈ calls) : .opened script ∈ calls := by
  obtain ⟨before, later, rfl⟩ := List.append_of_mem released
  have live : Live before script := disciplined before _ later rfl
  exact List.mem_append_left _ live.1

theorem Disciplined.count_released (disciplined : Disciplined calls) :
    calls.count (.released script) ≤ 1 := by
  by_cases released : .released script ∈ calls
  next =>
    obtain ⟨before, later, rfl, first⟩ := List.eq_append_cons_of_mem released
    have once : .released script ∉ later := by
      intro again
      obtain ⟨between, rest, rfl⟩ := List.append_of_mem again
      have live : Live (before ++ .released script :: between) script :=
        disciplined _ (.released script) rest (by simp)
      exact live.2 (by simp)
    simp [List.count_eq_zero_of_not_mem first, List.count_eq_zero_of_not_mem once]
  next => simp [List.count_eq_zero_of_not_mem released]

theorem live_opened (disciplined : Disciplined calls) {new : ScriptId}
    (fresh : .opened new ∉ calls) :
    Live (calls ++ [.opened new]) script ↔ Live calls script ∨ script = new := by
  have unreleased : .released new ∉ calls := fun released =>
    fresh (disciplined.opened_of_released released)
  by_cases same : script = new
  next => simp [Live, same, unreleased]
  next => simp [Live, same]

theorem live_asked {asked : ScriptId} :
    Live (calls ++ [.asked asked]) script ↔ Live calls script := by
  simp [Live]

theorem live_released {gone : ScriptId} :
    Live (calls ++ [.released gone]) script ↔ Live calls script ∧ script ≠ gone := by
  simp [Live, and_assoc]

end ScriptCall

namespace Ledger

open ScriptCall

def fresh (world : W) : Ledger W := { world, sessions := [], calls := [] }

structure Kept (ledger : Ledger W) : Prop where
  disciplined : Disciplined ledger.calls
  numbered : ∀ script, .opened script ∈ ledger.calls → script < ledger.sessions.length

theorem Kept.fresh (world : W) : Kept (fresh world) :=
  ⟨.empty, by simp [Ledger.fresh]⟩

theorem Kept.same {ledger after : Ledger W} (kept : Kept ledger)
    (calls : after.calls = ledger.calls) (sessions : after.sessions = ledger.sessions) :
    Kept after := by
  refine ⟨calls ▸ kept.disciplined, fun script opened => ?_⟩
  rw [calls] at opened
  rw [sessions]
  exact kept.numbered script opened

theorem Kept.use {ledger after : Ledger W} (kept : Kept ledger) (call : ScriptCall)
    (allowed : Allowed ledger.calls call) (uses : ∀ script, call ≠ .opened script)
    (calls : after.calls = ledger.calls ++ [call]) (sessions : after.sessions = ledger.sessions) :
    Kept after := by
  refine ⟨calls ▸ kept.disciplined.snoc allowed, fun script opened => ?_⟩
  rw [calls, List.mem_append, List.mem_singleton] at opened
  rw [sessions]
  rcases opened with before | new
  · exact kept.numbered script before
  · exact absurd new.symm (uses script)

theorem Kept.next_fresh {ledger : Ledger W} (kept : Kept ledger) :
    .opened ledger.sessions.length ∉ ledger.calls :=
  fun opened => absurd (kept.numbered _ opened) (Nat.lt_irrefl _)

theorem Kept.openNext {ledger after : Ledger W} (kept : Kept ledger) {entry : ScriptId × String}
    (calls : after.calls = ledger.calls ++ [.opened ledger.sessions.length])
    (sessions : after.sessions = ledger.sessions ++ [entry]) : Kept after := by
  refine ⟨calls ▸ kept.disciplined.snoc kept.next_fresh, fun script opened => ?_⟩
  rw [calls, List.mem_append, List.mem_singleton] at opened
  rw [sessions, List.length_append, List.length_singleton]
  rcases opened with before | new
  · exact Nat.lt_succ_of_lt (kept.numbered script before)
  · cases new
    exact Nat.lt_succ_self _

end Ledger

end PythonAssist
