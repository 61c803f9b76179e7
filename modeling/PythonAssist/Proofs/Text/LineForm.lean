import Mathlib.Data.List.Chain
import PythonAssist.Proofs.Text.LineShape

set_option autoImplicit false

namespace PythonAssist

namespace Lines

def EndsLine (text : List Char) : Prop := ∃ c ∈ text.getLast?, isTerminator c = true

theorem Closed.endsLine {line : List Char} (closed : Closed line) : EndsLine line := by
  obtain ⟨content, ending, -, ends, rfl⟩ := closed
  cases ends with
  | newline => exact ⟨'\n', by simp, rfl⟩
  | both => exact ⟨'\n', by simp, rfl⟩
  | lone => exact ⟨'\r', by simp, rfl⟩

theorem Plain.not_endsLine {line : List Char} (plain : Plain line) : ¬ EndsLine line := by
  rintro ⟨c, last, ends⟩
  rw [plain c (List.mem_of_getLast? last)] at ends
  cases ends

theorem endsLine_append {front back : List Char} (filled : back ≠ []) :
    EndsLine (front ++ back) ↔ EndsLine back := by
  unfold EndsLine
  rw [List.getLast?_append_of_ne_nil _ filled]

theorem wellFormed_iff {lines : List (List Char)} :
    WellFormed lines ↔ (∀ line ∈ lines.dropLast, Closed line) ∧
      (∃ last ∈ lines.getLast?, Plain last) ∧ lines.IsChain Apart := by
  constructor
  · intro shape
    induction shape with
    | last line plain => exact ⟨by simp, ⟨line, rfl, plain⟩, .singleton line⟩
    | closed line next rest closed apart shape ih =>
      obtain ⟨others, ⟨last, ends, plain⟩, chain⟩ := ih
      refine ⟨?_, ⟨last, by rwa [List.getLast?_cons_cons], plain⟩, .cons_cons apart chain⟩
      rw [List.dropLast_cons_cons]
      exact List.forall_mem_cons.mpr ⟨closed, others⟩
  · rintro ⟨closed, ⟨last, ends, plain⟩, chain⟩
    induction chain with
    | nil => cases ends
    | singleton line =>
      cases ends
      exact .last _ plain
    | @cons_cons line next rest apart chain ih =>
      rw [List.dropLast_cons_cons] at closed
      obtain ⟨first, others⟩ := List.forall_mem_cons.mp closed
      rw [List.getLast?_cons_cons] at ends
      exact .closed _ _ _ first apart (ih others ends)

-- Not only the next line but all that follows begins with no '\n'.
theorem WellFormed.apart_flatten {before after : List (List Char)} {line : List Char}
    (shape : WellFormed (before ++ line :: after)) : Apart line after.flatten := by
  have rest := shape.suffix (List.cons_ne_nil line after)
  cases rest with
  | last => simp [Apart]
  | closed _ next others closed apart follows =>
    rw [Apart, follows.head?_flatten]
    exact apart

theorem WellFormed.last_empty_iff {lines : List (List Char)} (shape : WellFormed lines) :
    lines.getLast? = some [] ↔ lines.flatten = [] ∨ EndsLine lines.flatten := by
  induction shape with
  | last line plain => simp [plain.not_endsLine]
  | closed line next rest closed apart shape ih =>
    have filled : (line :: next :: rest).flatten ≠ [] := by simp [closed.ne_nil]
    rw [List.getLast?_cons_cons, ih, or_iff_right filled, List.flatten_cons (l := line)]
    by_cases empty : (next :: rest).flatten = []
    next => simp only [empty, true_or, List.append_nil, closed.endsLine]
    next => rw [endsLine_append empty, or_iff_right empty]

end Lines

open Lines

structure LineForm (lines : List String) : Prop where
  closed : ∀ line ∈ lines.dropLast, Closed line.toList
  last : ∃ line ∈ lines.getLast?, Plain line.toList

def KeepApart (lines : List String) : Prop :=
  lines.IsChain fun line next => Apart line.toList next.toList

theorem wellFormed_map_toList {lines : List String} :
    WellFormed (lines.map String.toList) ↔ LineForm lines ∧ KeepApart lines := by
  rw [wellFormed_iff, List.isChain_map, ← List.map_dropLast, List.forall_mem_map,
    List.getLast?_map]
  constructor
  · rintro ⟨closed, ⟨_, found, plain⟩, apart⟩
    obtain ⟨last, ends, rfl⟩ := Option.map_eq_some_iff.mp found
    exact ⟨⟨closed, last, ends, plain⟩, apart⟩
  · rintro ⟨⟨closed, last, ends, plain⟩, apart⟩
    exact ⟨closed, ⟨last.toList, Option.mem_map_of_mem _ ends, plain⟩, apart⟩

theorem toList_join_eq (lines : List String) :
    (String.join lines).toList = (lines.map String.toList).flatten := by
  rw [String.toList_join, List.flatMap_def]

theorem splitLines_wellFormed (text : String) :
    WellFormed ((splitLines text).map String.toList) := by
  rw [splitLines_toList]
  exact split_wellFormed _

theorem join_splitLines (text : String) : String.join (splitLines text) = text := by
  rw [← String.toList_inj, toList_join_eq, splitLines_toList, split_flatten]

theorem splitLines_join {lines : List String} (form : LineForm lines) (apart : KeepApart lines) :
    splitLines (String.join lines) = lines := by
  apply List.map_injective_iff.mpr fun _ _ => String.toList_inj.mp
  rw [splitLines_toList, toList_join_eq, (wellFormed_map_toList.mpr ⟨form, apart⟩).split_eq]

theorem splitLines_apart {text : String} {before after : List String} {line : String}
    (cut : splitLines text = before ++ line :: after) :
    Apart line.toList (String.join after).toList := by
  have shape := splitLines_wellFormed text
  rw [cut, List.map_append, List.map_cons] at shape
  rw [toList_join_eq]
  exact shape.apart_flatten

theorem splitLines_last_empty_iff (text : String) :
    (splitLines text).getLast? = some "" ↔ text = "" ∨ EndsLine text.toList := by
  have law := (splitLines_wellFormed text).last_empty_iff
  rw [← toList_join_eq, join_splitLines, List.getLast?_map, String.toList_eq_nil_iff] at law
  rw [← law, Option.map_eq_some_iff]
  simp

theorem splitLines_is_only_decomposition :
    (∀ text : String,
      String.join (splitLines text) = text ∧ LineForm (splitLines text) ∧
      (∀ before line after, splitLines text = before ++ line :: after →
        Apart line.toList (String.join after).toList) ∧
      ((splitLines text).getLast? = some "" ↔ text = "" ∨ EndsLine text.toList)) ∧
    ∀ lines : List String, LineForm lines → KeepApart lines →
      splitLines (String.join lines) = lines := by
  constructor
  · intro text
    have form := (wellFormed_map_toList.mp (splitLines_wellFormed text)).1
    exact ⟨join_splitLines text, form, fun _ _ _ cut => splitLines_apart cut,
      splitLines_last_empty_iff text⟩
  · exact fun lines form apart => splitLines_join form apart

theorem splitLines_keeps_mixed_ends :
    let lines := ["é\r\n", "a\r", "\r\n", "b\n", ""]
    LineForm lines ∧ KeepApart lines ∧ splitLines (String.join lines) = lines := by
  intro lines
  have single {c : Char} (inside : isTerminator c = false) : Plain [c] :=
    plain_cons.mpr ⟨inside, plain_nil⟩
  have form : LineForm lines := by
    refine ⟨?_, "", rfl, plain_nil⟩
    rw [show lines.dropLast = ["é\r\n", "a\r", "\r\n", "b\n"] from rfl]
    simp only [List.forall_mem_cons]
    exact ⟨⟨['é'], _, single (by decide), .both, rfl⟩, ⟨['a'], _, single (by decide), .lone, rfl⟩,
      ⟨[], _, plain_nil, .both, rfl⟩, ⟨['b'], _, single (by decide), .newline, rfl⟩, nofun⟩
  have apart : KeepApart lines := by
    rw [KeepApart]
    decide
  exact ⟨form, apart, splitLines_is_only_decomposition.2 lines form apart⟩

end PythonAssist
