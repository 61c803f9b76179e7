import Mathlib.Data.List.Nodup
import PythonAssist.Proofs.Schedule.Events
import PythonAssist.Proofs.Session.Interleaving

set_option autoImplicit false

namespace PythonAssist

variable {W T : Type}

namespace Schedule

inductive Rescheduled (checks : Schedule T) : Schedule T → Prop
  | unchanged : Rescheduled checks checks
  | cancelled (uri : Uri) : Rescheduled checks (checks.cancel uri)
  | begun (uri : Uri) (job : T) : Rescheduled checks (checks.start uri job)
  | forgotten (uri : Uri) : Rescheduled checks (checks.forget uri)
  | cancelledAll : Rescheduled checks checks.cancelAll

namespace Rescheduled

variable {before after : Schedule T}

theorem of_eq (same : after = before) : Rescheduled before after := same ▸ .unchanged

theorem runs (rescheduled : Rescheduled before after) : Runs before after := by
  cases rescheduled with
  | unchanged => exact .refl _
  | cancelled uri => exact (Step.cancel _ uri).runs
  | begun uri job => exact (Step.start _ uri job).runs
  | forgotten uri => exact (Step.forget _ uri).runs
  | cancelledAll => exact cancelAll_runs _

theorem supersedes_or_spares (rescheduled : Rescheduled before after) (uri : Uri) :
    Supersedes uri before after ∨ Spares uri before after := by
  cases rescheduled with
  | unchanged => exact .inr (.refl uri _)
  | cancelled other =>
    by_cases same : uri = other
    · exact .inl (same ▸ cancel_supersedes _ _)
    · exact .inr (cancel_spares same _)
  | begun other job =>
    by_cases same : uri = other
    · exact .inl (same ▸ start_supersedes _ _ job)
    · exact .inr (start_spares same _ job)
  | forgotten other =>
    by_cases same : uri = other
    · exact .inl (same ▸ forget_supersedes _ _)
    · exact .inr (forget_spares same _)
  | cancelledAll =>
    by_cases listed : uri ∈ before.tasks.keys
    · exact .inl (foldl_cancel_supersedes listed _)
    · exact .inr (foldl_cancel_spares listed _)

end Rescheduled

end Schedule

open Schedule Session
open Situation (launched)

-- The type checks that may still end, and the schedule. One whose generation is current is listed
-- as running, where the end of the service finds it.
structure Overseen (flights : List Flight) (checks : Schedule PendingCheck) : Prop where
  sound : Sound checks
  bounded : ∀ flight ∈ flights, flight.generation ≤ checks.last
  distinct : (flights.map Flight.generation).Nodup
  listed : ∀ flight ∈ flights, checks.generation? flight.uri = some flight.generation →
    ∃ task, checks.tasks.find? flight.uri = some task ∧ task.generation = flight.generation ∧
      task.finished = false

namespace Overseen

variable {flights : List Flight} {checks after : Schedule PendingCheck}

theorem initially : Overseen [] (Schedule.empty : Schedule PendingCheck) :=
  ⟨.empty, by simp, by simp, by simp⟩

theorem reschedule (overseen : Overseen flights checks) (rescheduled : Rescheduled checks after) :
    Overseen flights after := by
  have last := rescheduled.runs.advances.last
  refine ⟨rescheduled.runs.sound overseen.sound,
    fun flight member => Nat.le_trans (overseen.bounded flight member) last, overseen.distinct,
    fun flight member current => ?_⟩
  rcases rescheduled.supersedes_or_spares flight.uri with supersedes | spares
  · exact absurd (overseen.bounded flight member) (Nat.not_le_of_lt (supersedes _ current))
  · obtain ⟨task, found, same, running⟩ :=
      overseen.listed flight member (spares.generation ▸ current)
    exact ⟨task, spares.task task found running, same, running⟩

theorem start (overseen : Overseen flights checks) (uri : Uri) (pending : PendingCheck) :
    Overseen (flights ++ [{ uri, generation := checks.last + 1, pending }])
      (checks.start uri pending) := by
  have kept := overseen.reschedule (.begun uri pending)
  refine ⟨kept.sound, fun flight member => ?_, ?_, fun flight member current => ?_⟩
  · rcases List.mem_append.mp member with before | new
    · exact kept.bounded flight before
    · obtain rfl := List.mem_singleton.mp new
      exact Nat.le_refl _
  · rw [List.map_append, List.nodup_append]
    refine ⟨overseen.distinct, List.nodup_singleton _, ?_⟩
    intro old member new now same
    obtain ⟨flight, before, rfl⟩ := List.mem_map.mp member
    obtain rfl := List.mem_singleton.mp now
    exact absurd (overseen.bounded flight before) (same ▸ Nat.not_succ_le_self checks.last)
  · rcases List.mem_append.mp member with before | new
    · exact kept.listed flight before current
    · obtain rfl := List.mem_singleton.mp new
      exact ⟨_, (Table.find?_insert _ _ _ _).trans (if_pos rfl), rfl, rfl⟩

theorem finish (overseen : Overseen flights checks) {flight : Flight} (member : flight ∈ flights) :
    Overseen (flights.erase flight) (checks.markFinished flight.uri flight.generation) := by
  obtain ⟨generations, last⟩ :=
    markFinished_generations checks flight.uri flight.generation
  have fewer : (flights.erase flight).Sublist flights := List.erase_sublist
  refine ⟨overseen.sound.finish _ _, fun other remains => ?_,
    overseen.distinct.sublist (fewer.map _), fun other remains current => ?_⟩
  · rw [last]
    exact overseen.bounded other (fewer.subset remains)
  · rw [generation?, generations] at current
    obtain ⟨different, before⟩ := overseen.distinct.of_map.mem_erase_iff.mp remains
    obtain ⟨task, found, same, running⟩ := overseen.listed other before current
    refine ⟨task, find?_markFinished checks _ found fun _ ended => different ?_, same, running⟩
    exact List.inj_on_of_nodup_map overseen.distinct before member (same ▸ ended)

theorem outdated_cancelAll (overseen : Overseen flights checks) :
    ∀ flight ∈ flights, checks.cancelAll.generation? flight.uri ≠ some flight.generation := by
  intro flight member current
  by_cases listed : flight.uri ∈ checks.tasks.keys
  · have newer := foldl_cancel_supersedes listed checks flight.generation current
    exact absurd (overseen.bounded flight member) (Nat.not_le_of_lt newer)
  · have same := (foldl_cancel_spares listed checks).generation
    obtain ⟨task, found, -⟩ := overseen.listed flight member (same ▸ current)
    exact listed (Table.mem_keys_of_find? found)

end Overseen

namespace Session

variable (surroundings : Surroundings W) (session : Session W)

theorem rebuildHandle_checks (uri : Uri) :
    Ensures (rebuildHandle surroundings.launcher.engine uri) session fun _ after =>
      after.checks = session.checks := by
  apply (started_ensures session).bind
  next =>
    rintro e after ⟨rfl, -⟩
    rfl
  next =>
    rintro environment after ⟨rfl, -⟩
    have built := (build_moves surroundings.launcher.engine uri after).1.keeps.checks
    apply ensures_get
    exact keepHandle_ensures (fun _ => built) fun _ _ => built

theorem didChange_rescheduled (uri : Uri) (version : Int) (changes : List ContentChange) :
    Ensures (didChange surroundings uri version changes) session fun _ after =>
      Rescheduled session.checks after.checks := by
  apply ensures_get
  cases session.documents.change uri version changes with
  | none => exact .unchanged
  | some documents =>
    apply ensures_modify
    apply ensures_modify
    apply (rebuildHandle_checks surroundings
      { session with documents, checks := session.checks.cancel uri } uri).bind
    · exact fun e after same => same ▸ .cancelled uri
    · exact fun _ after same => ensures_pure (same ▸ .cancelled uri)

theorem prepare_rescheduled (message : EditorMessage) :
    Rescheduled session.checks (prepare surroundings session message).1.checks := by
  cases message with
  | query query =>
    have moves : Moves _ _ session _ := answer_ensures surroundings.launcher.engine query session
    exact .of_eq moves.keeps.checks
  | shutdown => exact .cancelledAll
  | notice notice =>
    cases notice with
    | didOpen item => exact .unchanged
    | didChange uri version changes =>
      exact didChange_rescheduled surroundings session uri version changes
    | didClose uri => exact .forgotten uri
    | willSave uri => exact .unchanged
    | didSave uri text =>
      simp only [prepare]
      split
      · exact .unchanged
      · cases text <;> exact .unchanged
    | didChangeConfiguration payload =>
      simp only [prepare]
      repeat' split
      all_goals exact .unchanged
    | didChangeFolders change => exact .unchanged

end Session

namespace Moment

def Overseen (moment : Moment W) : Prop :=
  PythonAssist.Overseen moment.flights moment.session.checks

variable {surroundings : Surroundings W} {moment : Moment W}

theorem Proceeds.overseen {outcome : Outcome (Moment W) Unit}
    (proceeds : Proceeds surroundings moment outcome) (overseen : moment.Overseen) :
    outcome.state.Overseen := by
  have unchanged {uri : Uri} {after : Session W}
      (moves : Moves surroundings.launcher.engine uri moment.session after) :
      PythonAssist.Overseen moment.flights after.checks :=
    overseen.reschedule (.of_eq moves.keeps.checks)
  cases proceeds with
  | idle => exact overseen
  | failed _ _ _ _ moves => exact unchanged moves
  | inspected _ _ _ _ _ moves => exact unchanged moves
  | announced => exact overseen
  | renewed uri found rest after _ renews =>
    show PythonAssist.Overseen (moment.flights ++ launched moment.session.checks.last after.checks)
      after.checks
    cases renews with
    | cancelled =>
      rw [launched_cancel overseen.sound, List.append_nil]
      exact overseen.reschedule (.cancelled uri)
    | began pending _ =>
      rw [launched_start overseen.sound]
      exact overseen.start found.handle.uri pending

theorem Overseen.finish (overseen : moment.Overseen) (flight : Flight) (run : CheckerRun) :
    (moment.finish flight run).state.Overseen := by
  unfold Moment.finish
  split
  next member => exact PythonAssist.Overseen.finish overseen member
  next => exact overseen

end Moment

end PythonAssist
