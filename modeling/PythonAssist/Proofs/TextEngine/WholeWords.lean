import PythonAssist.Proofs.TextEngine.SearchSlices

set_option autoImplicit false

namespace PythonAssist

namespace TextEngine

open String (utf8Len)

structure IsWord (word : List Char) : Prop where
  filled : word ≠ []
  inside : ∀ c ∈ word, isWordChar c = true

structure MaximalRun (text : List Char) (start : Nat) (run : List Char) : Prop where
  isWord : IsWord run
  apart : ∃ front back, text = front ++ run ++ back ∧ utf8Len front = start ∧
    isWordAt front.getLast? = false ∧ isWordAt back.head? = false

structure RunStarts (text word : List Char) (starts : List Nat) : Prop where
  increasing : starts.Pairwise (· < ·)
  complete : ∀ start, start ∈ starts ↔ MaximalRun text start word

inductive Replaced (word value : List Char) :
    (column : Nat) → (starts : List Nat) → (text result : List Char) → Prop
  | done (column : Nat) : Replaced word value column [] [] []
  | kept {column : Nat} {starts : List Nat} {text result : List Char} (c : Char) :
      Replaced word value (column + c.utf8Size) starts text result →
      Replaced word value column starts (c :: text) (c :: result)
  | changed {column : Nat} {starts : List Nat} {text result : List Char} :
      Replaced word value (column + utf8Len word) starts text result →
      Replaced word value column (column :: starts) (word ++ text) (value ++ result)

variable {word value text front back run : List Char} {last : Option Char} {column start : Nat}

theorem Replaced.le_of_mem {starts : List Nat} {result : List Char}
    (replaced : Replaced word value column starts text result) :
    ∀ start ∈ starts, column ≤ start := by
  induction replaced with
  | done => exact nofun
  | kept c _ ih => exact fun start later => Nat.le_of_add_right_le (ih start later)
  | changed _ ih =>
    refine List.forall_mem_cons.mpr ⟨Nat.le_refl _, ?_⟩
    exact fun start later => Nat.le_of_add_right_le (ih start later)

theorem Replaced.unique {starts : List Nat} {result other : List Char}
    (once : Replaced word value column starts text result)
    (again : Replaced word value column starts text other) : result = other := by
  induction once generalizing other with
  | done => cases again with | done => rfl
  | @kept column starts text result c behind ih =>
    generalize whole : c :: text = all at again
    cases again with
    | done => cases whole
    | kept d later =>
      cases whole
      rw [ih later]
    | changed later =>
      have wide := c.utf8Size_pos
      have passed := behind.le_of_mem column List.mem_cons_self
      omega
  | @changed column starts text result behind ih =>
    generalize whole : word ++ text = all at again
    cases again with
    | kept d later =>
      have wide := d.utf8Size_pos
      have passed := later.le_of_mem column List.mem_cons_self
      omega
    | changed later =>
      cases List.append_cancel_left whole
      rw [ih later]

theorem IsWord.isWordAt_head? (isWord : IsWord word) (back : List Char) :
    isWordAt (word ++ back).head? = true := by
  obtain ⟨c, rest, rfl⟩ := List.exists_cons_of_ne_nil isWord.filled
  simpa [isWordAt] using isWord.inside c List.mem_cons_self

theorem IsWord.isWordAt_getLast? (isWord : IsWord word) : isWordAt word.getLast? = true := by
  rw [List.getLast?_eq_getLast_of_ne_nil isWord.filled]
  exact isWord.inside _ (List.getLast_mem isWord.filled)

theorem isWordAt_eq_false_iff {c? : Option Char} :
    isWordAt c? = false ↔ ∀ c ∈ c?, isWordChar c = false := by
  cases c? <;> simp [isWordAt]

theorem IsWord.singleton_ne (isWord : IsWord word) {c : Char} (other : isWordChar c = false) :
    [c] ≠ word := by
  rintro rfl
  cases other.symm.trans (isWord.inside c List.mem_cons_self)

section Pieces

def sameWord (c d : Char) : Bool := isWordChar c && isWordChar d

def pieces (text : List Char) : List (List Char) := text.splitBy sameWord

theorem pieces_append (apart : isWordAt front.getLast? = false ∨ isWordAt back.head? = false) :
    pieces (front ++ back) = pieces front ++ pieces back := by
  apply List.splitBy_append
  intro c ends d begins
  rcases apart with outside | outside
  · rw [sameWord, isWordAt_eq_false_iff.mp outside c ends, Bool.false_and]
  · rw [sameWord, isWordAt_eq_false_iff.mp outside d begins, Bool.and_false]

theorem IsWord.pieces (isWord : IsWord word) : pieces word = [word] := by
  have together : ∀ c ∈ word, ∀ d ∈ word, sameWord c d = true := by
    intro c first d second
    rw [sameWord, isWord.inside c first, isWord.inside d second, Bool.true_and]
  exact List.splitBy_of_isChain isWord.filled (List.pairwise_of_forall_mem_list together).isChain

theorem pieces_run (isWord : IsWord run) (ends : isWordAt back.head? = false) :
    pieces (run ++ back) = run :: pieces back := by
  rw [pieces_append (.inr ends), isWord.pieces, List.singleton_append]

theorem pieces_other {c : Char} (other : isWordChar c = false) (back : List Char) :
    pieces (c :: back) = [c] :: pieces back := by
  have apart : isWordAt [c].getLast? = false := other
  exact pieces_append (.inl apart)

-- No match reaches from one piece into the next, so what a scan does is proved piece by piece.
theorem pieces_induction {motive : List Char → Prop} (nil : motive [])
    (other : ∀ c back, isWordChar c = false → motive back → motive (c :: back))
    (run : ∀ run back, IsWord run → isWordAt back.head? = false → motive back →
      motive (run ++ back)) (text : List Char) : motive text := by
  match text with
  | [] => exact nil
  | c :: rest =>
    cases inside : isWordChar c with
    | false => exact other c rest inside (pieces_induction nil other run rest)
    | true =>
      have isWord : IsWord ((c :: rest).takeWhile isWordChar) :=
        ⟨by simp [inside], fun d member => List.mem_takeWhile_imp member⟩
      have ends : isWordAt ((c :: rest).dropWhile isWordChar).head? = false := by
        have stops := List.head?_dropWhile_not isWordChar (c :: rest)
        cases first : ((c :: rest).dropWhile isWordChar).head? with
        | none => rfl
        | some d =>
          rw [first] at stops
          exact stops
      have shorter : ((c :: rest).dropWhile isWordChar).length ≤ rest.length := by
        rw [List.dropWhile_cons_of_pos inside]
        exact (List.dropWhile_sublist isWordChar).length_le
      have whole := run _ _ isWord ends (pieces_induction nil other run _)
      rwa [List.takeWhile_append_dropWhile] at whole
termination_by text.length

section Neighbours

variable {before after : List (List Char)}

theorem flatten_of_pieces (cut : pieces text = before ++ word :: after) :
    text = before.flatten ++ word ++ after.flatten := by
  rw [← List.flatten_splitBy sameWord text, ← pieces, cut]
  simp

theorem chain_of_pieces (cut : pieces text = before ++ word :: after) :
    (before ++ word :: after).IsChain fun piece next =>
      ∃ filled others, sameWord (piece.getLast filled) (next.head others) = false := by
  rw [← cut]
  exact List.isChain_getLast_head_splitBy sameWord text

theorem isWordAt_before (isWord : IsWord word) (cut : pieces text = before ++ word :: after) :
    isWordAt before.flatten.getLast? = false := by
  obtain ⟨-, -, apart⟩ := List.isChain_append.mp (chain_of_pieces cut)
  rcases List.eq_nil_or_concat before with rfl | ⟨init, piece, rfl⟩
  · rfl
  · obtain ⟨filled, _, outside⟩ := apart piece (by simp) word rfl
    have first := isWord.inside _ (List.head_mem isWord.filled)
    rw [sameWord, first, Bool.and_true] at outside
    rw [List.concat_eq_append, List.flatten_append, List.flatten_singleton,
      List.getLast?_append_of_ne_nil _ filled, List.getLast?_eq_getLast_of_ne_nil filled]
    exact outside

theorem isWordAt_after (isWord : IsWord word) (cut : pieces text = before ++ word :: after) :
    isWordAt after.flatten.head? = false := by
  obtain ⟨-, behind, -⟩ := List.isChain_append.mp (chain_of_pieces cut)
  rcases after with _ | ⟨piece, others⟩
  · rfl
  · obtain ⟨_, filled, outside⟩ := (List.isChain_cons_cons.mp behind).1
    have final := isWord.inside _ (List.getLast_mem isWord.filled)
    rw [sameWord, final, Bool.true_and] at outside
    rw [List.flatten_cons, List.head?_append_of_ne_nil _ filled, List.head?_eq_some_head filled]
    exact outside

end Neighbours

theorem mem_pieces_iff (isWord : IsWord word) :
    (∃ before after, pieces text = before ++ word :: after ∧ utf8Len before.flatten = start) ↔
      MaximalRun text start word := by
  constructor
  · rintro ⟨before, after, cut, counted⟩
    exact ⟨isWord, _, _, flatten_of_pieces cut, counted, isWordAt_before isWord cut,
      isWordAt_after isWord cut⟩
  · rintro ⟨-, front, back, rfl, rfl, begins, ends⟩
    refine ⟨pieces front, pieces back, ?_, by rw [pieces, List.flatten_splitBy]⟩
    rw [List.append_assoc, pieces_append (.inl begins), pieces_run isWord ends]

end Pieces

section Places

def placesOf (word : List Char) : Nat → List (List Char) → List Nat
  | _, [] => []
  | column, piece :: rest =>
    (if piece = word then [column] else []) ++ placesOf word (column + utf8Len piece) rest

def exchange (word value piece : List Char) : List Char := if piece = word then value else piece

theorem mem_placesOf_iff {cut : List (List Char)} :
    start ∈ placesOf word column cut ↔
      ∃ before after, cut = before ++ word :: after ∧ column + utf8Len before.flatten = start := by
  induction cut generalizing column with
  | nil => simp [placesOf]
  | cons piece rest ih =>
    rw [placesOf, List.mem_append, ih]
    constructor
    · rintro (here | ⟨before, after, rfl, rfl⟩)
      · split at here
        next same => exact ⟨[], rest, by rw [same]; rfl, by simpa [eq_comm] using here⟩
        next => cases here
      · exact ⟨piece :: before, after, rfl, by simp [Nat.add_assoc]⟩
    · rintro ⟨before, after, whole, rfl⟩
      cases before with
      | nil =>
        cases whole
        simp
      | cons first before =>
        cases whole
        exact .inr ⟨before, after, rfl, by simp [Nat.add_assoc]⟩

theorem placesOf_increasing (filled : word ≠ []) (column : Nat) (cut : List (List Char)) :
    (placesOf word column cut).Pairwise (· < ·) := by
  induction cut generalizing column with
  | nil => exact .nil
  | cons piece rest ih =>
    rw [placesOf, List.pairwise_append]
    refine ⟨by split <;> simp, ih _, ?_⟩
    intro here listed start later
    split at listed
    next same =>
      obtain ⟨before, after, -, rfl⟩ := mem_placesOf_iff.mp later
      have wide : utf8Len piece ≠ 0 := by rwa [same, Ne, String.utf8Len_eq_zero]
      rw [List.mem_singleton.mp listed]
      omega
    next => cases listed

theorem runStarts_placesOf (isWord : IsWord word) (text : List Char) :
    RunStarts text word (placesOf word 0 (pieces text)) where
  increasing := placesOf_increasing isWord.filled 0 _
  complete := by
    intro start
    rw [← mem_pieces_iff isWord, mem_placesOf_iff]
    simp only [Nat.zero_add]

theorem Replaced.keep {starts : List Nat} {result : List Char} (piece : List Char)
    (behind : Replaced word value (column + utf8Len piece) starts text result) :
    Replaced word value column starts (piece ++ text) (piece ++ result) := by
  induction piece generalizing column with
  | nil => exact behind
  | cons c rest ih =>
    rw [String.utf8Len_cons, Nat.add_comm (utf8Len rest), ← Nat.add_assoc] at behind
    exact .kept c (ih behind)

theorem replaced_placesOf (word value : List Char) (column : Nat) (cut : List (List Char)) :
    Replaced word value column (placesOf word column cut) cut.flatten
      (cut.flatMap (exchange word value)) := by
  induction cut generalizing column with
  | nil => exact .done column
  | cons piece rest ih =>
    rw [placesOf, List.flatten_cons, List.flatMap_cons, exchange]
    split
    next same =>
      subst same
      exact .changed (ih _)
    next => exact .keep piece (ih _)

end Places

section Scan

-- How a scan for a word passes a run of word characters: step by step, and over each match, of
-- which none stands alone. `back` stands behind the run, `last` before it.
inductive Passed (word back : List Char) : Option Char → List Char → Prop
  | done (last : Option Char) : Passed word back last []
  | step {last : Option Char} {c : Char} {rest : List Char} :
      stripFront word (c :: rest ++ back) = none → Passed word back (some c) rest →
      Passed word back last (c :: rest)
  | jump {last : Option Char} {rest : List Char} :
      standsAlone last (rest ++ back) = false → Passed word back word.getLast? rest →
      Passed word back last (word ++ rest)

theorem getLast?_append_or (filled : word ≠ []) (rest : List Char) (last : Option Char) :
    (word ++ rest).getLast?.or last = rest.getLast?.or word.getLast? := by
  rw [List.getLast?_append, Option.or_assoc, List.getLast?_eq_getLast_of_ne_nil filled,
    Option.some_or]

theorem occurrencesFrom_of_passed (passed : Passed word back last run) (filled : word ≠ [])
    (column : Nat) :
    occurrencesFrom word 0 last column (run ++ back) =
      occurrencesFrom word 0 (run.getLast?.or last) (column + utf8Len run) back := by
  induction passed generalizing column with
  | done last => rfl
  | @step last c rest missed _ ih =>
    rw [List.cons_append] at missed ⊢
    rw [occurrencesFrom, missed, getLast?_cons_or, String.utf8Len_cons,
      Nat.add_comm (utf8Len rest), ← Nat.add_assoc]
    exact ih _
  | @jump last rest joins _ ih =>
    rw [List.append_assoc, occurrencesFrom_match filled, joins, ih, getLast?_append_or filled,
      String.utf8Len_append, ← Nat.add_assoc]
    rfl

theorem replaceFrom_of_passed (passed : Passed word back last run) (filled : word ≠ [])
    (value : List Char) :
    replaceFrom word value 0 0 last (run ++ back) =
      run ++ replaceFrom word value 0 0 (run.getLast?.or last) back := by
  induction passed with
  | done last => rfl
  | @step last c rest missed _ ih =>
    rw [List.cons_append] at missed ⊢
    rw [replaceFrom, missed, getLast?_cons_or]
    exact congrArg (c :: ·) ih
  | @jump last rest joins _ ih =>
    rw [List.append_assoc, replaceFrom_match filled, joins, ih, getLast?_append_or filled,
      ← List.append_assoc]
    rfl

theorem prefix_of_stripFront (isWord : IsWord word) (ends : isWordAt back.head? = false)
    {behind : List Char} (found : stripFront word (run ++ back) = some behind) : word <+: run := by
  rcases List.append_eq_append_iff.mp (stripFront_eq_some_iff.mp found) with
    ⟨rest, whole, same⟩ | ⟨rest, whole, -⟩
  · cases rest with
    | nil => rw [whole, List.append_nil]
    | cons c rest =>
      have inside := isWord.inside c (by simp [whole])
      rw [same, List.cons_append, List.head?_cons] at ends
      cases inside.symm.trans ends
  · exact ⟨rest, whole.symm⟩

-- A match that is not all of the run has a word character next to it, and so has each place inside
-- of a match: no whole word is passed over.
theorem passed_of_run (isWord : IsWord word) (ends : isWordAt back.head? = false)
    (last : Option Char) (run : List Char) (inside : ∀ c ∈ run, isWordChar c = true)
    (longer : isWordAt last = true ∨ run ≠ word) : Passed word back last run := by
  match run with
  | [] => exact .done last
  | c :: rest =>
    cases found : stripFront word (c :: rest ++ back) with
    | none =>
      obtain ⟨first, others⟩ := List.forall_mem_cons.mp inside
      exact .step found (passed_of_run isWord ends _ rest others (.inl first))
    | some behind =>
      obtain ⟨more, whole⟩ := prefix_of_stripFront isWord ends found
      have shorter : more.length ≤ rest.length := by
        have filling := List.length_pos_of_ne_nil isWord.filled
        have counted := congrArg List.length whole
        rw [List.length_append, List.length_cons] at counted
        omega
      rw [← whole] at inside longer ⊢
      have others := fun d member => inside d (List.mem_append_right word member)
      refine .jump ?_ (passed_of_run isWord ends _ more others (.inl isWord.isWordAt_getLast?))
      rcases longer with before | longer
      · rw [standsAlone, before]
        rfl
      · have more : IsWord more := ⟨by simpa using longer, others⟩
        rw [standsAlone, more.isWordAt_head?, Bool.not_true, Bool.and_false]
termination_by run.length

theorem standsAlone_of_apart (begins : isWordAt last = false) (ends : isWordAt back.head? = false) :
    standsAlone last back = true := by
  rw [standsAlone, begins, ends]
  rfl

theorem occurrencesFrom_run (isWord : IsWord word) (isRun : IsWord run)
    (begins : isWordAt last = false) (ends : isWordAt back.head? = false) (column : Nat) :
    occurrencesFrom word 0 last column (run ++ back) =
      (if run = word then [column] else []) ++
        occurrencesFrom word 0 run.getLast? (column + utf8Len run) back := by
  split
  next same =>
    rw [same, occurrencesFrom_match isWord.filled, standsAlone_of_apart begins ends]
    rfl
  next longer =>
    have passed := passed_of_run isWord ends last run isRun.inside (.inr longer)
    rw [occurrencesFrom_of_passed passed isWord.filled,
      List.getLast?_eq_getLast_of_ne_nil isRun.filled]
    rfl

theorem replaceFrom_run (isWord : IsWord word) (isRun : IsWord run)
    (begins : isWordAt last = false) (ends : isWordAt back.head? = false) (value : List Char) :
    replaceFrom word value 0 0 last (run ++ back) =
      exchange word value run ++ replaceFrom word value 0 0 run.getLast? back := by
  rw [exchange]
  split
  next same =>
    rw [same, replaceFrom_match isWord.filled, standsAlone_of_apart begins ends]
    rfl
  next longer =>
    have passed := passed_of_run isWord ends last run isRun.inside (.inr longer)
    rw [replaceFrom_of_passed passed isWord.filled,
      List.getLast?_eq_getLast_of_ne_nil isRun.filled]
    rfl

theorem stripFront_other (isWord : IsWord word) {c : Char} (other : isWordChar c = false)
    (back : List Char) : stripFront word (c :: back) = none := by
  rw [Option.eq_none_iff_forall_ne_some]
  intro behind found
  have first := isWord.isWordAt_head? behind
  rw [← stripFront_eq_some_iff.mp found] at first
  cases other.symm.trans first

-- Between two pieces there is no word character on one side at least, and there the scan goes on.
theorem occurrencesFrom_eq_placesOf (isWord : IsWord word) (text : List Char) :
    ∀ last column, isWordAt last = false ∨ isWordAt text.head? = false →
      occurrencesFrom word 0 last column text = placesOf word column (pieces text) := by
  induction text using pieces_induction with
  | nil => simp [occurrencesFrom, placesOf, pieces, isWord.filled]
  | other c back other ih =>
    intro last column _
    rw [occurrencesFrom, stripFront_other isWord other, pieces_other other, placesOf,
      if_neg (isWord.singleton_ne other), String.utf8Len_cons, String.utf8Len_nil, Nat.zero_add]
    exact ih (some c) _ (.inl other)
  | run run back isRun ends ih =>
    intro last column fresh
    have begins := fresh.resolve_right (Bool.ne_false_iff.mpr (isRun.isWordAt_head? back))
    rw [occurrencesFrom_run isWord isRun begins ends, pieces_run isRun ends, placesOf,
      ih _ _ (.inr ends)]

theorem replaceFrom_eq_exchange (isWord : IsWord word) (value text : List Char) :
    ∀ last, isWordAt last = false ∨ isWordAt text.head? = false →
      replaceFrom word value 0 0 last text = (pieces text).flatMap (exchange word value) := by
  induction text using pieces_induction with
  | nil => simp [replaceFrom, pieces]
  | other c back other ih =>
    intro last _
    rw [replaceFrom, stripFront_other isWord other, pieces_other other, List.flatMap_cons,
      exchange, if_neg (isWord.singleton_ne other), List.singleton_append]
    exact congrArg (c :: ·) (ih (some c) (.inl other))
  | run run back isRun ends ih =>
    intro last fresh
    have begins := fresh.resolve_right (Bool.ne_false_iff.mpr (isRun.isWordAt_head? back))
    rw [replaceFrom_run isWord isRun begins ends, pieces_run isRun ends, List.flatMap_cons,
      ih _ (.inr ends)]

end Scan

theorem occurrences_eq_placesOf (isWord : IsWord word) (text : List Char) :
    occurrences text word = placesOf word 0 (pieces text) :=
  occurrencesFrom_eq_placesOf isWord text none 0 (.inl rfl)

theorem replaceWord_eq_exchange (isWord : IsWord word) (value text : List Char) :
    replaceWord word value text = (pieces text).flatMap (exchange word value) :=
  replaceFrom_eq_exchange isWord value text none (.inl rfl)

theorem runStarts_occurrences (isWord : IsWord word) (text : List Char) :
    RunStarts text word (occurrences text word) := by
  rw [occurrences_eq_placesOf isWord]
  exact runStarts_placesOf isWord text

theorem replaced_occurrences (isWord : IsWord word) (value text : List Char) :
    Replaced word value 0 (occurrences text word) text (replaceWord word value text) := by
  have replaced := replaced_placesOf word value 0 (pieces text)
  rw [pieces, List.flatten_splitBy, ← pieces] at replaced
  rwa [occurrences_eq_placesOf isWord, replaceWord_eq_exchange isWord]

theorem replaced_occurrences_iff (isWord : IsWord word) {result : List Char} :
    Replaced word value 0 (occurrences text word) text result ↔
      result = replaceWord word value text := by
  have replaced := replaced_occurrences isWord value text
  exact ⟨fun other => other.unique replaced, fun same => same ▸ replaced⟩

end TextEngine

end PythonAssist
