import PythonAssist.Proofs.TextEngine.CodeLines
import PythonAssist.Proofs.TextEngine.CursorSlices
import PythonAssist.Proofs.TextEngine.WholeWords
import PythonAssist.TextEngine.Script

set_option autoImplicit false

namespace PythonAssist

namespace TextEngine

variable {code word value front back start : List Char} {lines : List (List Char)}

section Assignments

structure FirstAssignment (code word front rest back : List Char) : Prop where
  whole : code = front ++ (word ++ " = ".toList ++ rest) ++ back
  begins : BeginsLine front
  single : '\n' ∉ rest.dropLast
  ends : rest.getLast? = some '\n' ∨ back = []
  first : ∀ before behind, BeginsLine before →
    code = before ++ (word ++ " = ".toList ++ behind) → front <+: before

theorem takeAssignment_eq_some {kept : List (List Char)}
    (taken : Script.takeAssignment start lines = some (value, kept)) :
    ∃ before rest after, lines = before ++ (start ++ rest) :: after ∧
      (∀ line ∈ before, ¬ start <+: line) ∧ value = trimBack rest ∧ kept = before ++ after := by
  induction lines generalizing kept with
  | nil => cases taken
  | cons line others ih =>
    rw [Script.takeAssignment] at taken
    cases found : stripFront start line with
    | some rest =>
      rw [found] at taken
      cases taken
      exact ⟨[], rest, others, by rw [stripFront_eq_some_iff.mp found]; rfl, nofun, rfl, rfl⟩
    | none =>
      rw [found] at taken
      obtain ⟨⟨value, kept⟩, later, same⟩ := Option.map_eq_some_iff.mp taken
      cases same
      obtain ⟨before, rest, after, rfl, none, rfl, rfl⟩ := ih later
      refine ⟨line :: before, rest, after, rfl, ?_, rfl, rfl⟩
      refine List.forall_mem_cons.mpr ⟨?_, none⟩
      rintro ⟨rest, rfl⟩
      cases found.symm.trans (stripFront_eq_some_iff.mpr rfl)

theorem replaceWord_append (isWord : IsWord word) (value : List Char)
    (apart : isWordAt front.getLast? = false) (back : List Char) :
    replaceWord word value (front ++ back) =
      replaceWord word value front ++ replaceWord word value back := by
  simp only [replaceWord_eq_exchange isWord, pieces_append (.inl apart), List.flatMap_append]

-- A line feed is no word character, so no word goes on over the end of a line.
theorem flatten_map_replaceWord (isWord : IsWord word) (value : List Char) (fed : Fed lines) :
    (lines.map (replaceWord word value)).flatten = replaceWord word value lines.flatten := by
  induction fed with
  | nil => rfl
  | singleton line => simp
  | @cons_cons line next rest ends _ ih =>
    have apart : isWordAt line.getLast? = false := by rw [ends]; rfl
    rw [List.map_cons, List.flatten_cons, ih, ← replaceWord_append isWord value apart,
      ← List.flatten_cons]

theorem not_mem_of_isWord (isWord : IsWord word) : '\n' ∉ word ++ " = ".toList := by
  intro member
  rcases List.mem_append.mp member with inside | inside
  · cases isWord.inside _ inside
  · revert inside
    decide

theorem firstAssignment (isWord : IsWord word) {before after : List (List Char)} {rest : List Char}
    (cut : linesWithEnds code = before ++ (word ++ " = ".toList ++ rest) :: after)
    (none : ∀ line ∈ before, ¬ (word ++ " = ".toList) <+: line) :
    FirstAssignment code word before.flatten rest after.flatten := by
  have free := not_mem_of_isWord isWord
  have filled : word ++ " = ".toList ≠ [] := List.append_ne_nil_of_left_ne_nil isWord.filled _
  have listed : word ++ " = ".toList ++ rest ∈ linesWithEnds code := by simp [cut]
  have fed := linesWithEnds_fed code
  have whole := linesWithEnds_flatten code
  rw [cut] at fed whole
  refine ⟨by simp [← whole], fed.beginsLine, ?_, ?_, ?_⟩
  · intro member
    have solid : rest ≠ [] := by
      rintro rfl
      cases member
    have single := not_mem_dropLast listed
    rw [List.dropLast_append_of_ne_nil solid] at single
    exact single (List.mem_append_right _ member)
  · refine fed.getLast?_or.imp (fun ends => ?_) (fun nothing => by rw [nothing]; rfl)
    rw [List.getLast?_append, Option.or_eq_some_iff] at ends
    exact ends.resolve_right fun last => free (List.mem_of_getLast? last.2)
  · exact fun _ _ begins same => prefix_of_first filled free cut none begins same

theorem inlined_eq_some {new : List Char} (isWord : IsWord word)
    (inlined : Script.inlined code word = some new) :
    ∃ front rest back, FirstAssignment code word front rest back ∧
      new = replaceWord word (trimBack rest) (front ++ back) := by
  obtain ⟨⟨value, kept⟩, taken, rfl⟩ := Option.map_eq_some_iff.mp inlined
  obtain ⟨before, rest, after, cut, none, rfl, rfl⟩ := takeAssignment_eq_some taken
  refine ⟨before.flatten, rest, after.flatten, firstAssignment isWord cut none, ?_⟩
  have fed := linesWithEnds_fed code
  rw [cut] at fed
  rw [← List.flatten_append]
  exact flatten_map_replaceWord isWord _ fed.without

end Assignments

section Answers

open Script

theorem wordAt_isWord {text : List Char} {column : Nat} (found : wordAt text column = some word) :
    IsWord word := by
  refine ⟨wordAt_ne_nil found, ?_⟩
  obtain ⟨front, rest, -, rfl⟩ := wordAt_eq_some found
  intro c member
  rcases List.mem_append.mp member with before | behind
  · exact List.mem_takeWhile_imp (List.mem_reverse.mp before)
  · exact List.mem_takeWhile_imp behind

def changeToJson (path old : String) (new : List Char) : Json :=
  .object [("changed_files", .object [(path,
    .ofFields [("old_code", .string old), ("new_code", Script.text new)])])]

theorem inlineAt_eq_result_iff {script : Script} {line column : Nat} {answer : Json} :
    script.inlineAt line column = .result answer ↔
      ∃ word path new, script.wordAt? line column = some word ∧ script.path = some path ∧
        inlined script.chars word = some new ∧ answer = changeToJson path script.code new := by
  constructor
  · intro answered
    unfold inlineAt at answered
    repeat' split at answered
    all_goals cases answered
    next _ word named _ path saved _ new inlined =>
      exact ⟨word, path, new, named, saved, inlined, rfl⟩
  · rintro ⟨word, path, new, named, saved, inlined, rfl⟩
    simp only [inlineAt, named, saved, inlined]
    rfl

-- Whole words are found where they stand and nowhere else, and they are replaced while all else
-- stays; so a variable is inlined by the value of its first assignment.
theorem whole_words_are_found_and_replaced :
    (∀ text word, IsWord word →
      RunStarts text word (occurrences text word) ∧
      ∀ value result, Replaced word value 0 (occurrences text word) text result ↔
        result = replaceWord word value text) ∧
    ∀ (script : Script) (line column : Nat) (answer : Json),
      script.inlineAt line column = .result answer →
      ∃ word path front rest back starts new,
        script.wordAt? line column = some word ∧ script.path = some path ∧
        FirstAssignment script.chars word front rest back ∧
        RunStarts (front ++ back) word starts ∧
        Replaced word (trimBack rest) 0 starts (front ++ back) new ∧
        answer = changeToJson path script.code new := by
  refine ⟨fun text word isWord =>
    ⟨runStarts_occurrences isWord text, fun _ _ => replaced_occurrences_iff isWord⟩, ?_⟩
  intro script line column answer answered
  obtain ⟨word, path, new, named, saved, inlined, rfl⟩ := inlineAt_eq_result_iff.mp answered
  obtain ⟨found, -, covered⟩ := Option.bind_eq_some_iff.mp named
  have isWord := wordAt_isWord covered
  obtain ⟨front, rest, back, assigned, rfl⟩ := inlined_eq_some isWord inlined
  exact ⟨word, path, front, rest, back, _, _, named, saved, assigned,
    runStarts_occurrences isWord _, replaced_occurrences isWord _ _, rfl⟩

theorem overlapping_word_is_inlined :
    let word := ['a', 'a']
    let text := "aaa aa é aaé".toList
    let script : Script := ⟨"b = aa + aaa\naa = 1 \naa = é(aa)\n", some "/p/a.py"⟩
    let answer := changeToJson "/p/a.py" script.code "b = 1 + aaa\n1 = é(1)\n".toList
    IsWord word ∧ RunStarts text word [4, 10] ∧
      Replaced word ['x'] 0 [4, 10] text "aaa x é xé".toList ∧
      script.inlineAt 1 4 = .result answer ∧
      ∃ front rest back starts new,
        FirstAssignment script.chars word front rest back ∧
        RunStarts (front ++ back) word starts ∧
        Replaced word (trimBack rest) 0 starts (front ++ back) new ∧
        answer = changeToJson "/p/a.py" script.code new := by
  intro word text script answer
  have isWord : IsWord word := ⟨List.cons_ne_nil _ _, List.all_eq_true.mp rfl⟩
  have found : occurrences text word = [4, 10] := by decide +kernel
  have replaced : "aaa x é xé".toList = replaceWord word ['x'] text := by decide +kernel
  have named : script.wordAt? 1 4 = some word := by decide +kernel
  have inlined : Script.inlined script.chars word =
      some "b = 1 + aaa\n1 = é(1)\n".toList := by decide +kernel
  have answered : script.inlineAt 1 4 = .result answer :=
    inlineAt_eq_result_iff.mpr ⟨word, "/p/a.py", _, named, rfl, inlined, rfl⟩
  obtain ⟨starts, replaces⟩ := whole_words_are_found_and_replaced.1 text word isWord
  obtain ⟨again, path, front, rest, back, places, new, same, saved, assigned, runs, put, told⟩ :=
    whole_words_are_found_and_replaced.2 script 1 4 answer answered
  cases named.symm.trans same
  cases saved
  rw [found] at starts replaces
  exact ⟨isWord, starts, (replaces ['x'] _).mpr replaced, answered, front, rest, back, places, new,
    assigned, runs, put, told⟩

end Answers

end TextEngine

end PythonAssist
