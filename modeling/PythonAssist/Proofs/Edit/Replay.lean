import PythonAssist.Edit
import PythonAssist.Proofs.Diff.Records
import PythonAssist.Proofs.Document.Mirror

set_option autoImplicit false

namespace PythonAssist

open Lines

theorem toNat_clampToPosition (n : Nat) : (clampToPosition n).toNat = min n positionLimit := by
  have small : min n positionLimit < 2 ^ 32 :=
    Nat.lt_of_le_of_lt (Nat.min_le_right n positionLimit) (by decide)
  rw [clampToPosition, UInt32.toNat_ofNat', Nat.mod_eq_of_lt small]

theorem clampToPosition_toNat {n : Nat} (fits : n ≤ positionLimit) :
    (clampToPosition n).toNat = n := by
  rw [toNat_clampToPosition, Nat.min_eq_left fits]

namespace Document

theorem offset_line {lines : List (List Char)} (shape : WellFormed lines) {line : Nat}
    (fits : line ≤ positionLimit) :
    offset lines.flatten (.ofNat line 0) = (lines.take line).flatten.length := by
  have column : (clampToPosition 0).toNat = 0 := clampToPosition_toNat (Nat.zero_le _)
  simp only [offset_eq_place, shape.split_eq, Position.ofNat, clampToPosition_toNat fits, column,
    place_zero]

theorem splice_lines {before removed after : List (List Char)} (inserted : List Char)
    (shape : WellFormed (before ++ removed ++ after))
    (fits : before.length + removed.length ≤ positionLimit) :
    splice (before ++ removed ++ after).flatten
      { start := .ofNat before.length 0, stop := .ofNat (before.length + removed.length) 0 }
      inserted = before.flatten ++ inserted ++ after.flatten := by
  have start := offset_line shape (Nat.le_trans (Nat.le_add_right _ _) fits)
  have stop := offset_line shape fits
  rw [List.append_assoc, List.take_left, ← List.append_assoc] at start
  rw [← List.length_append, List.take_left] at stop
  have within : before.flatten.length ≤ (before ++ removed).flatten.length := by simp
  rw [splice, start, ← List.length_append, stop, Nat.max_eq_right within, List.flatten_append,
    List.drop_left, List.flatten_append, List.append_assoc before.flatten, List.take_left]

end Document

namespace Edit

open LineChange

def replay (edits : List TextEdit) (text : List Char) : List Char :=
  edits.foldr (fun edit text => Document.splice text edit.range edit.newText.toList) text

theorem replay_append (first second : List TextEdit) (text : List Char) :
    replay (first ++ second) text = replay first (replay second text) := by
  simp [replay]

structure Stands (pending : Option Pending) (cursor : Nat)
    (before removed inserted : List (List Char)) : Prop where
  start : (pending.getD (.openAt cursor)).start = before.length
  counted : cursor = before.length + removed.length
  stays : (pending.getD (.openAt cursor)).replaces = false → removed = []
  text : (pending.getD (.openAt cursor)).text.toList = inserted.flatten

theorem Stands.closed (before : List (List Char)) (cursor : Nat)
    (counted : cursor = before.length) : Stands none cursor before [] [] :=
  ⟨counted, by simpa using counted, fun _ => rfl, rfl⟩

theorem Stands.finish {pending : Option Pending} {cursor : Nat}
    {before removed inserted : List (List Char)}
    (stands : Stands pending cursor before removed inserted) :
    (pending.getD (.openAt cursor)).finish cursor =
      { range :=
          { start := .ofNat before.length 0
            stop := .ofNat (before.length + removed.length) 0 }
        newText := (pending.getD (.openAt cursor)).text } := by
  have stop : (if (pending.getD (.openAt cursor)).replaces then cursor
      else (pending.getD (.openAt cursor)).start) = before.length + removed.length := by
    split
    next => exact stands.counted
    next stays =>
      rw [stands.start, stands.stays (by simpa using stays), List.length_nil, Nat.add_zero]
  rw [Pending.finish, stop, stands.start]

theorem Stands.replay_closing {pending : Option Pending} {cursor : Nat}
    {before removed inserted : List (List Char)}
    (stands : Stands pending cursor before removed inserted) (fits : cursor ≤ positionLimit)
    (after : List (List Char)) (shape : WellFormed (before ++ removed ++ after)) :
    replay (closing cursor pending) (before ++ removed ++ after).flatten =
      (before ++ inserted ++ after).flatten := by
  cases pending with
  | none =>
    have none_removed : removed = [] := stands.stays rfl
    have none_inserted : inserted.flatten = [] := stands.text.symm
    simp [closing, replay, none_removed, none_inserted]
  | some run =>
    have edit := stands.finish
    have text := stands.text
    rw [Option.getD_some] at edit text
    have spliced := Document.splice_lines inserted.flatten shape (stands.counted ▸ fits)
    simpa [closing, replay, edit, text] using spliced

theorem advance_ok {cursor : Nat} (room : cursor < positionLimit) :
    advance cursor = .ok (cursor + 1) := if_pos room

theorem collect_removed {cursor : Nat} {pending : Option Pending}
    (free : (pending.getD (.openAt cursor)).inserted = false) (room : cursor < positionLimit)
    (line : String) (rest : List LineChange) :
    collect cursor pending (.removed line :: rest) =
      collect (cursor + 1) (some { pending.getD (.openAt cursor) with replaces := true }) rest := by
  rw [collect, advance_ok room, if_neg (by simp [free])]
  rfl

theorem collect_unchanged {cursor : Nat} (room : cursor < positionLimit)
    (pending : Option Pending) (line : String) {rest : List LineChange} {edits : List TextEdit}
    (collected : collect (cursor + 1) none rest = .ok edits) :
    collect cursor pending (.unchanged line :: rest) = .ok (closing cursor pending ++ edits) := by
  rw [collect, advance_ok room]
  simp only [bind, Except.bind, collected]
  rfl

def Spread : Nat → Nat → List TextEdit → Prop
  | _, _, [] => True
  | first, last, edit :: rest =>
    first ≤ edit.range.start.line.toNat ∧ edit.range.start.line ≤ edit.range.stop.line ∧
      edit.range.stop.line.toNat ≤ last ∧
      edit.range.start.character = 0 ∧ edit.range.stop.character = 0 ∧
      Spread (edit.range.stop.line.toNat + 1) last rest

theorem Spread.weaken {first other last : Nat} {edits : List TextEdit} (earlier : other ≤ first)
    (spread : Spread first last edits) : Spread other last edits := by
  cases edits with
  | nil => trivial
  | cons edit rest => exact ⟨Nat.le_trans earlier spread.1, spread.2⟩

theorem Stands.spread {pending : Option Pending} {cursor : Nat}
    {before removed inserted : List (List Char)}
    (stands : Stands pending cursor before removed inserted) {last : Nat} (within : cursor ≤ last)
    (fits : cursor ≤ positionLimit) {edits : List TextEdit}
    (spread : Spread (cursor + 1) last edits) :
    Spread before.length last (closing cursor pending ++ edits) := by
  have counted := stands.counted
  cases pending with
  | none => exact spread.weaken (by omega)
  | some run =>
    have edit := stands.finish
    rw [Option.getD_some] at edit
    have start : (clampToPosition before.length).toNat = before.length :=
      clampToPosition_toNat (by omega)
    have stop : (clampToPosition (before.length + removed.length)).toNat = cursor := by
      rw [← counted, clampToPosition_toNat fits]
    refine ⟨?_, ?_, ?_, ?_, ?_, ?_⟩ <;> simp only [edit, Position.ofNat, UInt32.le_iff_toNat_le]
    · omega
    · omega
    · omega
    · rfl
    · rfl
    · rwa [stop]

end Edit

end PythonAssist
