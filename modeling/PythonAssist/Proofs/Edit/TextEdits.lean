import PythonAssist.Proofs.Edit.Replay

set_option autoImplicit false

namespace PythonAssist

open Lines LineChange

namespace Edit

def characters (lines : List String) : List (List Char) := lines.map String.toList

theorem characters_cons (line : String) (lines : List String) :
    characters (line :: lines) = line.toList :: characters lines := rfl

section Step

variable {pending : Option Pending} {cursor : Nat} {before removed inserted : List (List Char)}

theorem Stands.remove (stands : Stands pending cursor before removed inserted) (line : List Char) :
    Stands (some { pending.getD (.openAt cursor) with replaces := true }) (cursor + 1) before
      (removed ++ [line]) inserted := by
  refine ⟨stands.start, ?_, by simp, stands.text⟩
  rw [stands.counted, List.length_append, List.length_singleton, Nat.add_assoc]

theorem Stands.insert (stands : Stands pending cursor before removed inserted) (line : String) :
    Stands (some { pending.getD (.openAt cursor) with
        inserted := true, text := (pending.getD (.openAt cursor)).text ++ line })
      cursor before removed (inserted ++ [line.toList]) := by
  refine ⟨stands.start, stands.counted, stands.stays, ?_⟩
  simp [stands.text]

end Step

-- The runs before the cursor are settled; those behind it are replayed first, on the old lines
-- before them. An unchanged line keeps the text in between well formed.
theorem collect_correct (changes : List LineChange) {cursor last : Nat} {pending : Option Pending}
    {before removed inserted : List (List Char)}
    (stands : Stands pending cursor before removed inserted)
    (ordered : RemovedFirst (pending.getD (.openAt cursor)).inserted changes)
    (counted : cursor + (oldLines changes).length = last) (fits : last ≤ positionLimit)
    (oldShape : WellFormed (before ++ removed ++ characters (oldLines changes)))
    (newShape : WellFormed (before ++ inserted ++ characters (newLines changes))) :
    ∃ edits, collect cursor pending changes = .ok edits ∧ Spread before.length last edits ∧
      replay edits (before ++ removed ++ characters (oldLines changes)).flatten =
        (before ++ inserted ++ characters (newLines changes)).flatten := by
  induction changes generalizing cursor pending before removed inserted with
  | nil =>
    have within : cursor ≤ last := Nat.le.intro counted
    have spread := stands.spread within (by omega) (show Spread _ last [] from trivial)
    rw [List.append_nil] at spread
    exact ⟨closing cursor pending, rfl, spread, stands.replay_closing (by omega) _ oldShape⟩
  | cons change rest ih =>
    rw [oldLines_cons] at counted oldShape ⊢
    rw [newLines_cons] at newShape ⊢
    cases change with
    | removed line =>
      obtain ⟨free, others⟩ := ordered
      simp only [old, new, List.singleton_append, List.nil_append, List.length_cons,
        characters_cons] at counted oldShape newShape ⊢
      rw [collect_removed free (by omega)]
      have next := ih (stands.remove line.toList) (by simpa [free] using others) (by omega)
      rw [← List.append_assoc before, ← List.append_cons] at next
      exact next oldShape newShape
    | inserted line =>
      simp only [old, new, List.singleton_append, List.nil_append, characters_cons]
        at counted oldShape newShape ⊢
      have next := ih (stands.insert line) ordered counted oldShape
      rw [← List.append_assoc before, ← List.append_cons] at next
      exact next newShape
    | unchanged line =>
      simp only [old, new, List.singleton_append, List.length_cons, characters_cons]
        at counted oldShape newShape ⊢
      have passed : cursor + 1 = (before ++ removed ++ [line.toList]).length := by
        simp [stands.counted, Nat.add_assoc]
      have middle : WellFormed (before ++ removed ++ line.toList :: characters (newLines rest)) :=
        oldShape.join newShape
      have next := ih (Stands.closed _ _ passed) ordered (by omega)
      rw [List.append_nil, ← List.append_cons, ← List.append_cons] at next
      obtain ⟨edits, collected, spread, replayed⟩ := next oldShape middle
      rw [← passed] at spread
      refine ⟨_, collect_unchanged (by omega) pending line collected, ?_, ?_⟩
      · exact stands.spread (by omega) (by omega) spread
      · rw [replay_append, replayed, stands.replay_closing (by omega) _ middle]

theorem collect_unchanged_only (lines : List String) (cursor : Nat)
    (fits : cursor + lines.length ≤ positionLimit) :
    collect cursor none (lines.map .unchanged) = .ok [] := by
  induction lines generalizing cursor with
  | nil => rfl
  | cons line rest ih =>
    rw [List.length_cons] at fits
    exact collect_unchanged (by omega) none line (ih (cursor + 1) (by omega))

end Edit

def TextEdit.change (edit : TextEdit) : ContentChange :=
  { range := some edit.range, text := edit.newText }

theorem Document.applyChanges_reverse (edits : List TextEdit) (text : String) :
    (applyChanges text (edits.reverse.map TextEdit.change)).toList =
      Edit.replay edits text.toList := by
  simp only [applyChanges, List.map_reverse, List.foldl_reverse, List.foldr_map]
  induction edits with
  | nil => rfl
  | cons edit rest ih =>
    show (String.ofList (splice _ edit.range edit.newText.toList)).toList = _
    rw [String.toList_ofList, ih]
    rfl

theorem Document.foldl_follow_text (groups : List ChangeGroup) (document : Document) :
    (groups.foldl follow document).text =
      applyChanges document.text (groups.flatMap ChangeGroup.changes) := by
  induction groups generalizing document with
  | nil => rfl
  | cons group rest ih => simp [ih, follow, applyChanges]

structure TurnsInto (edits : List TextEdit) (old new : String) : Prop where
  empty : edits = [] ↔ old = new
  spread : Edit.Spread 0 (splitLines old).length edits
  replays : ∀ (store : DocumentStore) (uri : Uri) (document : Document)
    (groups : List ChangeGroup), store.find? uri = some document → document.text = old →
    groups.flatMap ChangeGroup.changes = edits.reverse.map TextEdit.change →
    ∃ followed changed, store.follow uri groups = some followed ∧
      followed.find? uri = some changed ∧ changed.text = new

namespace Edit

theorem turnsInto_of_replay {edits : List TextEdit} {old new : String}
    (unchanged : old = new → edits = []) (spread : Spread 0 (splitLines old).length edits)
    (replayed : replay edits old.toList = new.toList) : TurnsInto edits old new := by
  refine ⟨⟨?_, unchanged⟩, spread, ?_⟩
  next =>
    rintro rfl
    exact String.toList_injective replayed
  next =>
    rintro store uri document groups isOpen rfl reported
    obtain ⟨followed, applied, found, -⟩ := DocumentStore.find?_follow isOpen groups
    refine ⟨followed, _, applied, found, ?_⟩
    apply String.toList_injective
    rw [Document.foldl_follow_text, reported, Document.applyChanges_reverse, replayed]

theorem coalesce_turnsInto {old new : String} {script : List (Diff.Block String)}
    (fits : (splitLines old).length ≤ positionLimit)
    (described : Diff.Describes script (splitLines old) (splitLines new))
    (unchanged : old = new → ∀ block ∈ script, Diff.IsEqual block) :
    ∃ edits, coalesce (Diff.records [] script) = .ok edits ∧ TurnsInto edits old new := by
  have oldSide : oldLines (Diff.records [] script) = splitLines old := by
    rw [Diff.records_oldLines, described.valid.1]
  have newSide : newLines (Diff.records [] script) = splitLines new := by
    rw [Diff.records_newLines, described.valid.2, List.nil_append]
  have shape (text : String) : WellFormed (characters (splitLines text)) := by
    rw [characters, splitLines_toList]
    exact split_wellFormed text.toList
  have whole (text : String) : (characters (splitLines text)).flatten = text.toList := by
    rw [characters, splitLines_toList, split_flatten]
  obtain ⟨edits, collected, spread, replayed⟩ :=
    collect_correct (Diff.records [] script) (Stands.closed [] 0 rfl)
      (Diff.records_removedFirst described.solid []) (Nat.zero_add _) (oldSide ▸ fits)
      (by simpa [oldSide] using shape old) (by simpa [newSide] using shape new)
  simp only [oldSide, newSide, List.nil_append, whole] at spread replayed
  refine ⟨edits, collected, turnsInto_of_replay ?_ spread replayed⟩
  intro same
  have equal := Diff.records_equal (unchanged same)
  rw [described.valid.1] at equal
  have nothing := collect_unchanged_only (splitLines old) 0 (by simpa using fits)
  rw [equal, nothing] at collected
  exact (Except.ok.inj collected).symm

end Edit

-- Of the comparison only this matters: its blocks cover both buffers in order, an equal block has
-- lines, and equal buffers have nothing but equal blocks.
theorem textEdits_turn_old_into_new (old new : String)
    (fits : (splitLines old).length ≤ positionLimit) :
    (∃ edits, textEdits old new = .ok edits ∧ TurnsInto edits old new) ∧
      ∀ script, Diff.Describes script (splitLines old) (splitLines new) →
        (old = new → ∀ block ∈ script, Diff.IsEqual block) →
        ∃ edits, coalesce (Diff.records [] script) = .ok edits ∧ TurnsInto edits old new := by
  constructor
  next =>
    apply Edit.coalesce_turnsInto fits (Diff.script_describes _ _)
    rintro rfl
    rw [Diff.script_self]
    cases splitLines old <;> simp [Diff.keep, Diff.IsEqual]
  next =>
    intro script described unchanged
    exact Edit.coalesce_turnsInto fits described unchanged

theorem textEdits_turn_lone_return :
    (splitLines "a\rb").length ≤ positionLimit ∧
      ∃ edits, textEdits "a\rb" "a\r\nc" = .ok edits ∧ TurnsInto edits "a\rb" "a\r\nc" := by
  have fits : (splitLines "a\rb").length ≤ positionLimit := by decide
  exact ⟨fits, (textEdits_turn_old_into_new "a\rb" "a\r\nc" fits).1⟩

end PythonAssist
