import Mathlib.Data.List.Forall2
import PythonAssist.Proofs.Diff.Runs
import PythonAssist.Proofs.Edit.TextEdits

set_option autoImplicit false

namespace PythonAssist

open LineChange

structure TextEdit.Covers (edit : TextEdit) (run : Run) : Prop where
  start : edit.range.start.line.toNat = (oldLines run.before).length
  stop : edit.range.stop.line.toNat = (oldLines run.before).length + (oldLines run.body).length
  columns : edit.range.start.character = 0 ∧ edit.range.stop.character = 0
  text : edit.newText = String.join (newLines run.body)

namespace Edit

def replaceLines (edit : TextEdit) (lines : List String) : List String :=
  lines.take edit.range.start.line.toNat ++ edit.newText ::
    lines.drop edit.range.stop.line.toNat

-- The last edit goes first, so the lines of the others keep their numbers.
def replayLines (edits : List TextEdit) (lines : List String) : List String :=
  edits.foldr replaceLines lines

structure Follows (pending : Option Pending) (cursor : Nat) (before body : List LineChange) :
    Prop where
  stands : Stands pending cursor (characters (oldLines before)) (characters (oldLines body))
    (characters (newLines body))
  opened : pending = none ↔ body = []
  added : (pending.getD (.openAt cursor)).inserted = addedAfter false body

namespace Follows

variable {pending : Option Pending} {cursor : Nat} {before body : List LineChange}

theorem start : Follows none 0 [] [] :=
  ⟨.closed _ _ rfl, by simp, rfl⟩

theorem remove (follows : Follows pending cursor before body) (line : String) :
    Follows (some { pending.getD (.openAt cursor) with replaces := true }) (cursor + 1) before
      (body ++ [.removed line]) where
  stands := by
    simpa [characters, oldLines, newLines, old, new] using follows.stands.remove line.toList
  opened := by simp
  added := by rw [addedAfter_append, ← follows.added]; rfl

theorem insert (follows : Follows pending cursor before body) (line : String) :
    Follows (some { pending.getD (.openAt cursor) with
        inserted := true, text := (pending.getD (.openAt cursor)).text ++ line })
      cursor before (body ++ [.inserted line]) where
  stands := by
    simpa [characters, oldLines, newLines, old, new] using follows.stands.insert line
  opened := by simp
  added := by rw [addedAfter_append]; rfl

theorem pass (follows : Follows pending cursor before body) (line : String) :
    Follows none (cursor + 1) (before ++ body ++ [.unchanged line]) [] := by
  refine ⟨.closed _ _ ?_, by simp, rfl⟩
  rw [follows.stands.counted]
  simp [characters, oldLines, old, Nat.add_assoc]

theorem closing_covers (follows : Follows pending cursor before body)
    (fits : cursor ≤ positionLimit) (rest : List LineChange) :
    List.Forall₂ TextEdit.Covers (closing cursor pending)
      (Run.whenFilled ⟨before, body, rest⟩) := by
  cases pending with
  | none =>
    rw [follows.opened.mp rfl]
    exact .nil
  | some run =>
    have filled : body ≠ [] := fun empty => by cases follows.opened.mpr empty
    have counted := follows.stands.counted
    have edit := follows.stands.finish
    have text := follows.stands.text
    simp only [Option.getD_some, characters, List.length_map] at edit text counted
    rw [Run.whenFilled, if_neg (by simpa using filled)]
    refine .cons ?_ .nil
    rw [edit]
    refine ⟨?_, ?_, ⟨rfl, rfl⟩, ?_⟩
    · exact clampToPosition_toNat (by omega)
    · exact clampToPosition_toNat (by omega)
    · apply String.toList_injective
      rw [text, String.toList_join, List.flatMap]

end Follows

theorem collect_runs {pending : Option Pending} {cursor : Nat} {before body rest : List LineChange}
    (follows : Follows pending cursor before body)
    (ordered : RemovedFirst (addedAfter false body) rest)
    (fits : cursor + (oldLines rest).length ≤ positionLimit) :
    ∃ edits, collect cursor pending rest = .ok edits ∧
      List.Forall₂ TextEdit.Covers edits (runsFrom before body rest) := by
  induction rest generalizing pending cursor before body with
  | nil => exact ⟨_, rfl, follows.closing_covers fits []⟩
  | cons change rest ih =>
    rw [oldLines_cons, List.length_append] at fits
    cases change with
    | removed line =>
      obtain ⟨free, others⟩ := ordered
      rw [old, List.length_singleton] at fits
      rw [collect_removed (follows.added.trans free) (by omega)]
      refine ih (follows.remove line) ?_ (by omega)
      rw [addedAfter_append, free]
      exact others
    | inserted line =>
      refine ih (follows.insert line) ?_ (by simpa [old] using fits)
      rw [addedAfter_append]
      exact ordered
    | unchanged line =>
      rw [old, List.length_singleton] at fits
      obtain ⟨edits, collected, covers⟩ := ih (follows.pass line) ordered (by omega)
      refine ⟨_, collect_unchanged (by omega) pending line collected, ?_⟩
      exact List.rel_append (follows.closing_covers (by omega) _) covers

theorem collect_late {pending : Option Pending} {cursor : Nat} {before after : List LineChange}
    {line : String}
    (ordered : RemovedFirst (pending.getD (.openAt cursor)).inserted before)
    (late : addedAfter (pending.getD (.openAt cursor)).inserted before = true)
    (fits : cursor + (oldLines before).length ≤ positionLimit) :
    collect cursor pending (before ++ .removed line :: after) =
      .error (.removedAfterInserted (cursor + (oldLines before).length)) := by
  induction before generalizing pending cursor with
  | nil =>
    have added : (pending.getD (.openAt cursor)).inserted = true := late
    rw [List.nil_append, collect, if_pos added]
    rfl
  | cons change before ih =>
    rw [oldLines_cons, List.length_append] at fits ⊢
    cases change with
    | removed other =>
      obtain ⟨free, others⟩ := ordered
      rw [old, List.length_singleton] at fits ⊢
      rw [List.cons_append, collect_removed free (by omega), ih, Nat.add_assoc]
      · simpa [free] using others
      · exact late
      · omega
    | inserted other =>
      rw [old, List.length_nil, Nat.zero_add] at fits ⊢
      exact ih ordered late fits
    | unchanged other =>
      rw [old, List.length_singleton] at fits ⊢
      rw [List.cons_append, collect, advance_ok (by omega)]
      have stops : collect (cursor + 1) none (before ++ .removed line :: after) = _ :=
        ih ordered late (by omega)
      simp only [bind, Except.bind, stops, Nat.add_assoc]

theorem replayLines_append (first second : List TextEdit) (lines : List String) :
    replayLines (first ++ second) lines = replayLines first (replayLines second lines) := by
  simp [replayLines]

theorem replayLines_whenFilled {edits : List TextEdit} {run : Run}
    (covers : List.Forall₂ TextEdit.Covers edits run.whenFilled) (behind : List String) :
    ∃ lines, replayLines edits (oldLines run.before ++ oldLines run.body ++ behind) =
        oldLines run.before ++ lines ++ behind ∧
      String.join lines = String.join (newLines run.body) := by
  unfold Run.whenFilled at covers
  split at covers
  next empty =>
    cases covers
    rw [List.isEmpty_iff.mp empty]
    exact ⟨[], rfl, rfl⟩
  next =>
    cases covers with
    | @cons edit _ _ _ covered others =>
      cases others
      refine ⟨[edit.newText], ?_, ?_⟩
      · have kept : (oldLines run.before ++ oldLines run.body ++ behind).drop
            edit.range.stop.line.toNat = behind := by
          rw [covered.stop, ← List.length_append, List.drop_left]
        rw [replayLines, List.foldr_cons, List.foldr_nil, replaceLines, kept, covered.start,
          List.append_assoc, List.take_left, List.append_assoc, List.singleton_append]
      · rw [covered.text]
        exact String.empty_append

-- The lines before the first run stay as they are, so the edits of earlier runs fit afterwards.
theorem replayLines_runsFrom {edits : List TextEdit} {before body rest : List LineChange}
    (covers : List.Forall₂ TextEdit.Covers edits (runsFrom before body rest)) :
    ∃ lines, replayLines edits (oldLines before ++ oldLines body ++ oldLines rest) =
        oldLines before ++ lines ∧
      String.join lines = String.join (newLines body ++ newLines rest) := by
  fun_induction runsFrom before body rest generalizing edits with
  | case1 before body =>
    obtain ⟨lines, replayed, joined⟩ := replayLines_whenFilled covers []
    rw [List.append_nil] at replayed
    exact ⟨lines, by simpa [oldLines] using replayed, by simpa [newLines] using joined⟩
  | case2 before body change rest isChange ih =>
    simpa [oldLines_append, newLines_append, oldLines, newLines] using ih covers
  | case3 before body change rest stops ih =>
    obtain ⟨line, rfl⟩ : ∃ line, change = .unchanged line := by
      cases change <;> simp_all [isChange]
    have first := List.forall₂_take_append _ _ _ covers
    have later := List.forall₂_drop_append _ _ _ covers
    obtain ⟨behind, replayed, joined⟩ := ih later
    obtain ⟨front, replayedFront, joinedFront⟩ := replayLines_whenFilled first (line :: behind)
    refine ⟨front ++ line :: behind, ?_, ?_⟩
    · rw [← List.take_append_drop _ edits, replayLines_append]
      have whole : oldLines before ++ oldLines body ++ oldLines (.unchanged line :: rest) =
          oldLines (before ++ body ++ [.unchanged line]) ++ oldLines [] ++ oldLines rest := by
        simp [oldLines, old]
      have passed : oldLines (before ++ body ++ [.unchanged line]) ++ behind =
          oldLines before ++ oldLines body ++ line :: behind := by
        simp [oldLines, old]
      rw [whole, replayed, passed, replayedFront, List.append_assoc]
    · rw [String.join_append, joinedFront, String.join_cons, joined]
      simp [newLines, new]

structure Merges (edits : List TextEdit) (changes : List LineChange) : Prop where
  covers : ∃ runs, (∀ run, run ∈ runs ↔ Run.Maximal run changes) ∧
    (runs.Pairwise fun run next => run.before.length < next.before.length) ∧
    List.Forall₂ TextEdit.Covers edits runs
  replays : String.join (replayLines edits (oldLines changes)) = String.join (newLines changes)

theorem coalesce_ordered {changes : List LineChange} (ordered : RemovedFirst false changes)
    (fits : (oldLines changes).length ≤ positionLimit) :
    ∃ edits, coalesce changes = .ok edits ∧ Merges edits changes := by
  rw [← Nat.zero_add (oldLines changes).length] at fits
  obtain ⟨edits, collected, covers⟩ := collect_runs .start ordered fits
  obtain ⟨lines, replayed, joined⟩ := replayLines_runsFrom covers
  refine ⟨edits, collected, ⟨runs changes, fun _ => mem_runs, runs_ordered changes, covers⟩, ?_⟩
  have whole : replayLines edits (oldLines changes) = lines := replayed
  rw [whole, joined]
  rfl

theorem coalesce_late {before after : List LineChange} {line : String}
    (ordered : RemovedFirst false before) (added : addedAfter false before = true)
    (fits : (oldLines (before ++ .removed line :: after)).length ≤ positionLimit) :
    coalesce (before ++ .removed line :: after) =
      .error (.removedAfterInserted (oldLines before).length) := by
  have within : 0 + (oldLines before).length ≤ positionLimit := by
    rw [oldLines_append, List.length_append] at fits
    omega
  have stopped : collect 0 none (before ++ .removed line :: after) = _ :=
    collect_late ordered added within
  rwa [Nat.zero_add] at stopped

end Edit

-- The records need not come from a comparison: a line may be removed and inserted anywhere.
theorem coalesce_merges_runs (changes : List LineChange)
    (fits : (oldLines changes).length ≤ positionLimit) :
    (∀ error, coalesce changes = .error error ↔ ∃ before, FirstLate changes before ∧
      error = .removedAfterInserted (oldLines before).length) ∧
    ((∃ before, FirstLate changes before) ↔ ∃ before, RemovedLate changes before) ∧
    ((¬ ∃ before, RemovedLate changes before) →
      ∃ edits, coalesce changes = .ok edits ∧ Edit.Merges edits changes) := by
  refine ⟨fun error => ?_, exists_firstLate_iff, ?_⟩
  · rcases removedFirst_or_first_late false changes with
      ordered | ⟨front, line, after, rfl, ordered, added⟩
    next =>
      obtain ⟨edits, merged, -⟩ := Edit.coalesce_ordered ordered fits
      rw [merged]
      constructor
      · intro stopped
        cases stopped
      · rintro ⟨before, first, -⟩
        exact absurd first.late (ordered.not_removedLate before)
    next =>
      have first : FirstLate (front ++ .removed line :: after) front :=
        firstLate_of_ordered ordered added
      rw [Edit.coalesce_late ordered added fits]
      constructor
      · intro stopped
        exact ⟨front, first, (Except.error.inj stopped).symm⟩
      · rintro ⟨before, other, rfl⟩
        rw [first.eq other]
  · intro timely
    rcases removedFirst_or_first_late false changes with
      ordered | ⟨front, line, after, rfl, ordered, added⟩
    next => exact Edit.coalesce_ordered ordered fits
    next => exact absurd ⟨front, (firstLate_of_ordered ordered added).late⟩ timely

theorem coalesce_merges_hand_made_runs :
    let timely : List LineChange :=
      [.inserted "x\n", .unchanged "a\n", .removed "b\n", .inserted "y\n"]
    let late := timely ++ [.removed "c\n"]
    (oldLines timely).length ≤ positionLimit ∧
      (∃ edits, coalesce timely = .ok edits ∧ Edit.Merges edits timely) ∧
      (oldLines late).length ≤ positionLimit ∧ coalesce late = .error (.removedAfterInserted 2) := by
  intro timely late
  have ordered : RemovedFirst false timely := ⟨rfl, trivial⟩
  have fits : (oldLines timely).length ≤ positionLimit := by decide
  have fitsLate : (oldLines late).length ≤ positionLimit := by decide
  have inTime : ¬ ∃ before, RemovedLate timely before :=
    fun ⟨before, tooLate⟩ => ordered.not_removedLate before tooLate
  refine ⟨fits, (coalesce_merges_runs timely fits).2.2 inTime, fitsLate, ?_⟩
  exact ((coalesce_merges_runs late fitsLate).1 _).mpr
    ⟨timely, firstLate_of_ordered ordered rfl, rfl⟩

end PythonAssist
