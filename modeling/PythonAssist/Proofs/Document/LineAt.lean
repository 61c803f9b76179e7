import PythonAssist.Proofs.Document.Offset

set_option autoImplicit false

namespace PythonAssist

namespace Lines

theorem terminators_cons_plain {c : Char} {text : List Char} (plain : isTerminator c = false) :
    terminators (c :: text) = terminators text := by
  have notReturn := (isTerminator_eq_false.mp plain).2
  rw [terminators]
  · simp [plain]
  · intro rest same
    exact absurd same notReturn

theorem length_split (text : List Char) : (split text).length = terminators text + 1 := by
  fun_induction split text with
  | case1 => rfl
  | case2 rest ih => rw [List.length_cons, ih]; rfl
  | case3 rest ih => rw [List.length_cons, ih]; rfl
  | case4 rest notBoth ih =>
    rw [List.length_cons, ih, terminators]
    · rfl
    · rintro others - rfl
      exact notBoth others rfl
  | case5 c rest notNewline _ notReturn ih =>
    obtain ⟨line, others, found⟩ := exists_split_eq rest
    rw [terminators_cons_plain (isTerminator_eq_false.mpr ⟨notNewline, notReturn⟩), ← ih, found]
    rfl

theorem terminators_append_plain {content : List Char} (plain : Plain content)
    (text : List Char) : terminators (content ++ text) = terminators text := by
  induction content with
  | nil => rfl
  | cons c content ih =>
    obtain ⟨first, others⟩ := plain_cons.mp plain
    rw [List.cons_append, terminators_cons_plain first, ih others]

theorem terminators_ending_append {ending text : List Char} (ends : Ending ending)
    (apart : Apart ending text) : terminators (ending ++ text) = terminators text + 1 := by
  cases ends with
  | newline => rfl
  | both => rfl
  | lone =>
    rw [List.singleton_append, terminators]
    · rfl
    · rintro rest - rfl
      exact apart rfl rfl

theorem not_plain_append {ending text : List Char} (ends : Ending ending) :
    ¬ Plain (ending ++ text) := by
  cases ends <;> simp [Plain, isTerminator]

theorem unfinished_ending_append {ending text : List Char} (ends : Ending ending) :
    unfinished (ending ++ text) = unfinished text := by
  cases ends with
  | newline => exact unfinished_cons_terminator rfl
  | both => exact (unfinished_cons_terminator rfl).trans (unfinished_cons_terminator rfl)
  | lone => exact unfinished_cons_terminator rfl

theorem unfinished_content_append {content text : List Char} (closed : ¬ Plain text) :
    unfinished (content ++ text) = unfinished text := by
  induction content with
  | nil => rfl
  | cons c content ih =>
    have later : ¬ Plain (content ++ text) := fun plain =>
      closed fun d member => plain d (List.mem_append_right content member)
    rw [List.cons_append, unfinished_cons_of_not_plain later, ih]

theorem Ending.ne_nil {ending : List Char} (ends : Ending ending) : ending ≠ [] := by
  cases ends <;> simp

theorem apart_append_iff (front : List Char) {back next : List Char} (filled : back ≠ []) :
    Apart (front ++ back) next ↔ Apart back next := by
  rw [Apart, Apart, List.getLast?_append_of_ne_nil front filled]

theorem content_closed {content ending : List Char} (plain : Plain content)
    (ends : Ending ending ∨ ending = []) : Lines.content (content ++ ending) = content := by
  have stays : content.reverse.dropWhile isTerminator = content.reverse := by
    cases reversed : content.reverse with
    | nil => rfl
    | cons c rest =>
      have last : isTerminator c = false :=
        plain c (List.mem_reverse.mp (reversed ▸ List.mem_cons_self))
      simp [List.dropWhile, last]
  have dropped : ending.reverse.dropWhile isTerminator = [] := by
    rcases ends with ends | rfl
    next => cases ends <;> rfl
    next => rfl
  simp [Lines.content, List.dropWhile_append, dropped, stays]

structure LineAt (text : List Char) (number : Nat) (before content ending after : List Char) :
    Prop where
  joined : text = before ++ (content ++ ending ++ after)
  counted : terminators before = number
  finished : unfinished before = []
  apart : Apart before (content ++ ending ++ after)
  plain : Plain content
  ends : Ending ending ∧ Apart ending after ∨ ending = [] ∧ after = []

theorem split_finished_append {before text : List Char} (finished : unfinished before = [])
    (apart : Apart before text) :
    ∃ lines, lines.length = terminators before ∧ lines.flatten = before ∧
      split (before ++ text) = lines ++ split text := by
  fun_induction terminators before with
  | case1 => exact ⟨[], rfl, rfl, rfl⟩
  | case2 rest ih =>
    rw [unfinished_cons_terminator rfl, unfinished_cons_terminator rfl] at finished
    have restApart : Apart rest text := by
      intro ends
      apply apart
      cases rest <;> simp_all
    obtain ⟨lines, counted, joined, cut⟩ := ih finished restApart
    refine ⟨['\r', '\n'] :: lines, by rw [List.length_cons, counted], by simp [joined], ?_⟩
    rw [List.cons_append, List.cons_append, split, cut, List.cons_append]
  | case3 c rest notBoth ih =>
    have restApart : Apart rest text := by
      intro ends
      apply apart
      cases rest <;> simp_all
    by_cases ends : isTerminator c = true
    next =>
      rw [unfinished_cons_terminator ends] at finished
      obtain ⟨lines, counted, joined, cut⟩ := ih finished restApart
      refine ⟨[c] :: lines, by rw [List.length_cons, counted, if_pos ends], by simp [joined], ?_⟩
      rcases (by simpa [isTerminator] using ends : c = '\n' ∨ c = '\r') with rfl | rfl
      next => rw [List.cons_append, split, cut, List.cons_append]
      next =>
        have lone : (rest ++ text).head? ≠ some '\n' := by
          cases rest with
          | nil => exact apart rfl
          | cons next rest => simpa using notBoth rest rfl
        rw [List.cons_append, split_lone_cons lone, cut, List.cons_append]
    next =>
      have plain : isTerminator c = false := by simpa using ends
      have closed : ¬ Plain rest := by
        intro rest_plain
        rw [unfinished_plain (plain_cons.mpr ⟨plain, rest_plain⟩)] at finished
        cases finished
      rw [unfinished_cons_of_not_plain closed] at finished
      obtain ⟨lines, counted, joined, cut⟩ := ih finished restApart
      cases lines with
      | nil =>
        rw [List.length_nil, eq_comm, terminators_eq_zero] at counted
        exact absurd counted closed
      | cons line lines =>
        refine ⟨(c :: line) :: lines, by rw [if_neg ends, ← counted]; rfl, by simp [← joined], ?_⟩
        rw [List.cons_append, split_cons_plain plain, cut]
        rfl

theorem terminators_finished_append {before text : List Char}
    (finished : unfinished before = []) (apart : Apart before text) :
    terminators (before ++ text) = terminators before + terminators text := by
  obtain ⟨lines, counted, -, cut⟩ := split_finished_append finished apart
  have sizes := congrArg List.length cut
  rw [List.length_append, length_split, length_split, counted] at sizes
  omega

theorem LineAt.last {text before content ending after : List Char}
    (line : LineAt text (terminators text) before content ending after) :
    ending = [] ∧ after = [] := by
  rcases line.ends with ⟨ends, apart⟩ | nothing
  next =>
    have counted := line.counted
    rw [line.joined, terminators_finished_append line.finished line.apart, List.append_assoc,
      terminators_append_plain line.plain, terminators_ending_append ends apart] at counted
    omega
  next => exact nothing

theorem LineAt.split_eq {text before content ending after : List Char} {number : Nat}
    (line : LineAt text number before content ending after) :
    ∃ lines, lines.length = number ∧ lines.flatten = before ∧
      ∃ others, split text = lines ++ (content ++ ending) :: others := by
  obtain ⟨lines, counted, joined, cut⟩ := split_finished_append line.finished line.apart
  refine ⟨lines, counted.trans line.counted, joined, ?_⟩
  rw [line.joined, cut]
  rcases line.ends with ⟨ends, apart⟩ | ⟨rfl, rfl⟩
  next =>
    have follows := (apart_append_iff content ends.ne_nil).mpr apart
    exact ⟨split after, by rw [split_closed_append ⟨content, ending, line.plain, ends, rfl⟩ follows]⟩
  next =>
    exact ⟨[], by rw [List.append_nil, List.append_nil, split_plain line.plain]⟩

theorem exists_lineAt_of_wellFormed {lines : List (List Char)} (shape : WellFormed lines)
    {number : Nat} (inside : number < lines.length) :
    ∃ before content ending after,
      LineAt lines.flatten number before content ending after := by
  induction shape generalizing number with
  | last line plain =>
    obtain rfl : number = 0 := by simpa using inside
    refine ⟨[], line, [], [], by simp, rfl, rfl, by simp [Apart], plain, .inr ⟨rfl, rfl⟩⟩
  | closed line next rest closed apart shape ih =>
    have follows : Apart line (next :: rest).flatten := by
      rw [Apart, shape.head?_flatten]
      exact apart
    obtain ⟨content, ending, plain, ends, rfl⟩ := closed
    cases number with
    | zero =>
      refine ⟨[], content, ending, (next :: rest).flatten, by simp, rfl, rfl, by simp [Apart],
        plain, .inl ⟨ends, ?_⟩⟩
      exact (apart_append_iff content ends.ne_nil).mp follows
    | succ number =>
      have within : number < (next :: rest).length := by simpa using inside
      obtain ⟨before, inner, terminator, after, found⟩ := ih within
      have endsApart : Apart ending before := by
        intro lone starts
        apply (apart_append_iff content ends.ne_nil).mp follows lone
        rw [found.joined, List.head?_append, starts]
        rfl
      refine ⟨content ++ ending ++ before, inner, terminator, after, ?_, ?_, ?_, ?_, found.plain,
        found.ends⟩
      · rw [List.flatten_cons, found.joined, ← List.append_assoc]
      · rw [List.append_assoc, terminators_append_plain plain,
          terminators_ending_append ends endsApart, found.counted]
      · rw [List.append_assoc, unfinished_content_append (not_plain_append ends),
          unfinished_ending_append ends, found.finished]
      · cases before with
        | nil =>
          rw [List.append_nil]
          intro lone
          have starts := follows lone
          rwa [found.joined, List.nil_append] at starts
        | cons c before => exact (apart_append_iff _ (List.cons_ne_nil c before)).mpr found.apart

theorem exists_lineAt {text : List Char} {number : Nat}
    (inside : number < (split text).length) :
    ∃ before content ending after, LineAt text number before content ending after := by
  have found := exists_lineAt_of_wellFormed (split_wellFormed text) inside
  rwa [split_flatten] at found

end Lines

namespace Units

theorem isPrefix_take (column : Nat) (text : List Char) : take column text <+: text :=
  ⟨drop column text, take_append_drop column text⟩

theorem take_within {front back : List Char} {c : Char} {column : Nat}
    (behind : count front < column) (within : column ≤ count front + width c) :
    take column (front ++ c :: back) = front ++ [c] := by
  induction front generalizing column with
  | nil =>
    simp only [count, Nat.zero_add] at behind within
    obtain ⟨rest, rfl⟩ := Nat.exists_eq_succ_of_ne_zero (Nat.ne_of_gt behind)
    have done : rest + 1 - width c = 0 := by omega
    rw [List.nil_append, take, done, take]
    rfl
  | cons d front ih =>
    simp only [count] at behind within
    have wide := width_pos d
    obtain ⟨rest, rfl⟩ : ∃ rest, column = width d + rest := ⟨column - width d, by omega⟩
    rw [List.cons_append, take_cons, ih (by omega) (by omega)]
    rfl

theorem take_count (front back : List Char) : take (count front) (front ++ back) = front := by
  induction front with
  | nil => simp [count, take]
  | cons c rest ih => rw [List.cons_append, count, take_cons, ih]

theorem take_past {text : List Char} {column : Nat} (past : count text ≤ column) :
    take column text = text := by
  induction text generalizing column with
  | nil => cases column <;> rfl
  | cons c rest ih =>
    simp only [count] at past
    obtain ⟨more, rfl⟩ : ∃ more, column = width c + more := ⟨column - width c, by omega⟩
    rw [take_cons, ih (by omega)]

theorem take_mono {first second : Nat} (earlier : first ≤ second) (text : List Char) :
    take first text <+: take second text := by
  induction text generalizing first second with
  | nil => cases first <;> exact List.nil_prefix
  | cons c rest ih =>
    cases first with
    | zero => exact List.nil_prefix
    | succ first =>
      obtain ⟨second, rfl⟩ := Nat.exists_eq_succ_of_ne_zero (Nat.ne_of_gt (by omega : 0 < second))
      rw [take, take]
      exact List.prefix_cons_inj c |>.mpr (ih (Nat.sub_le_sub_right earlier _))

end Units

namespace Document

open Lines

def front (lines : List (List Char)) (line column : Nat) : List Char :=
  (lines.take line).flatten ++
    match lines[line]? with
    | none => []
    | some found => Units.take column (content found)

theorem length_front (lines : List (List Char)) (line column : Nat) :
    (front lines line column).length = place lines line column := by
  unfold front place
  cases lines[line]? <;> simp

theorem isPrefix_content (line : List Char) : content line <+: line := by
  unfold content
  rw [← List.reverse_suffix, List.reverse_reverse]
  exact List.dropWhile_suffix _

theorem isPrefix_front_next (lines : List (List Char)) (line column : Nat) :
    front lines line column <+: (lines.take (line + 1)).flatten := by
  rw [List.take_add_one, List.flatten_append, front]
  apply List.prefix_append_right_inj _ |>.mpr
  cases lines[line]? with
  | none => exact List.nil_prefix
  | some found => simpa using (Units.isPrefix_take column _).trans (isPrefix_content found)

theorem isPrefix_flatten_take (lines : List (List Char)) (count : Nat) :
    (lines.take count).flatten <+: lines.flatten :=
  ⟨(lines.drop count).flatten, by rw [← List.flatten_append, List.take_append_drop]⟩

theorem flatten_take_mono (lines : List (List Char)) {first second : Nat}
    (earlier : first ≤ second) :
    (lines.take first).flatten <+: (lines.take second).flatten := by
  have inside := isPrefix_flatten_take (lines.take second) first
  rwa [List.take_take, Nat.min_eq_left earlier] at inside

theorem isPrefix_front (text : List Char) (line column : Nat) :
    front (split text) line column <+: text := by
  have whole := (isPrefix_front_next (split text) line column).trans
    (isPrefix_flatten_take (split text) (line + 1))
  rwa [split_flatten] at whole

theorem front_mono (lines : List (List Char)) {line column line' column' : Nat}
    (earlier : line < line' ∨ line = line' ∧ column ≤ column') :
    front lines line column <+: front lines line' column' := by
  rcases earlier with before | ⟨rfl, earlier⟩
  next =>
    exact (isPrefix_front_next lines line column).trans
      ((flatten_take_mono lines before).trans (List.prefix_append _ _))
  next =>
    apply List.prefix_append_right_inj _ |>.mpr
    cases lines[line]? with
    | none => exact List.nil_prefix
    | some found => exact Units.take_mono earlier _

theorem front_lineAt {text before content ending after : List Char} {number : Nat}
    (line : LineAt text number before content ending after) (column : Nat) :
    front (split text) number column = before ++ Units.take column content := by
  obtain ⟨lines, rfl, rfl, others, cut⟩ := line.split_eq
  have ends : Ending ending ∨ ending = [] := line.ends.imp And.left And.left
  rw [front, cut, List.take_left, List.getElem?_append_right (Nat.le_refl _), Nat.sub_self]
  simp only [List.getElem?_cons_zero, content_closed line.plain ends]

theorem front_past {text : List Char} {line : Nat} (past : (split text).length ≤ line)
    (column : Nat) : front (split text) line column = text := by
  rw [front, List.getElem?_eq_none past, List.take_of_length_le past, split_flatten]
  exact List.append_nil text

end Document

end PythonAssist
