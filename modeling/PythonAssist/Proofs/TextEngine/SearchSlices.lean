import PythonAssist.Proofs.Text.Splitting
import PythonAssist.Proofs.TextEngine.WordSlices

set_option autoImplicit false

namespace PythonAssist

namespace TextEngine

open String (utf8Len)

theorem slice?_front_of (front back : List Char) :
    Utf8.slice? (front ++ back) 0 (utf8Len front) = some front := by
  simpa using Utf8.slice?_append [] front back

theorem slice?_back_of (front back : List Char) :
    Utf8.slice? (front ++ back) (utf8Len front) (byteWidth (front ++ back)) = some back := by
  rw [byteWidth_eq]
  simpa using Utf8.slice?_append front back []

section Matches

-- Where a word stands, match behind match. `skip` counts the characters of the last match that are
-- still to be passed.
def matchesFrom (word : List Char) : Nat → Nat → List Char → List Nat
  | _, column, [] => if word.isEmpty then [column] else []
  | skip + 1, column, c :: rest => matchesFrom word skip (column + c.utf8Size) rest
  | 0, column, c :: rest =>
    match stripFront word (c :: rest) with
    | none => matchesFrom word 0 (column + c.utf8Size) rest
    | some _ => column :: matchesFrom word (word.length - 1) (column + c.utf8Size) rest

def standsAlone (last : Option Char) (back : List Char) : Bool :=
  !isWordAt last && !isWordAt back.head?

def isAlone? (text word : List Char) (start : Nat) : Option Bool := do
  let front ← Utf8.slice? text 0 start
  let back ← Utf8.slice? text (start + byteWidth word) (byteWidth text)
  return standsAlone front.getLast? back

def keepAlone? (text word : List Char) : List Nat → Option (List Nat)
  | [] => some []
  | start :: rest => do
    let alone ← isAlone? text word start
    let others ← keepAlone? text word rest
    return (if alone then [start] else []) ++ others

def occurrenceSlices? (text word : List Char) : Option (List Nat) :=
  keepAlone? text word (matchesFrom word 0 0 text)

theorem isAlone?_eq (front word back : List Char) :
    isAlone? (front ++ word ++ back) word (utf8Len front) =
      some (standsAlone front.getLast? back) := by
  have first : Utf8.slice? (front ++ word ++ back) 0 (utf8Len front) = some front := by
    rw [List.append_assoc]
    exact slice?_front_of front (word ++ back)
  have last := slice?_back_of (front ++ word) back
  rw [String.utf8Len_append] at last
  simp only [isAlone?, byteWidth_eq word, first, last, Option.bind_eq_bind, Option.bind_some,
    Option.pure_def]

variable {word : List Char}

-- `done` is the text before the place that the scan has come to.
theorem keepAlone?_matchesFrom (skip : Nat) (done rest : List Char) :
    keepAlone? (done ++ rest) word (matchesFrom word skip (utf8Len done) rest) =
      some (occurrencesFrom word skip done.getLast? (utf8Len done) rest) := by
  induction rest generalizing skip done with
  | nil =>
    by_cases nothing : word = []
    next =>
      subst nothing
      have alone := isAlone?_eq done [] []
      simp only [List.append_nil] at alone
      simp [matchesFrom, occurrencesFrom, keepAlone?, alone, standsAlone, isWordAt]
    next => simp [matchesFrom, occurrencesFrom, keepAlone?, nothing]
  | cons c rest ih =>
    have passed (skip : Nat) := ih skip (done ++ [c])
    simp only [List.append_assoc, List.singleton_append, String.utf8Len_append, String.utf8Len_cons,
      String.utf8Len_nil, Nat.zero_add, List.getLast?_append, List.getLast?_singleton,
      Option.some_or] at passed
    cases skip with
    | succ skip => exact passed skip
    | zero =>
      rw [matchesFrom, occurrencesFrom]
      cases found : stripFront word (c :: rest) with
      | none => exact passed 0
      | some back =>
        have alone := isAlone?_eq done word back
        rw [List.append_assoc, ← stripFront_eq_some_iff.mp found] at alone
        simp only [keepAlone?, alone, passed, Option.bind_eq_bind, Option.bind_some,
          Option.pure_def]
        rfl

theorem occurrenceSlices?_eq (text word : List Char) :
    occurrenceSlices? text word = some (occurrences text word) :=
  keepAlone?_matchesFrom 0 [] text

end Matches

section Replacement

def replaceSlices? (text word value : List Char) : Nat → List Nat → Option (List Char)
  | last, [] => Utf8.slice? text last (byteWidth text)
  | last, start :: rest => do
    let kept ← Utf8.slice? text last start
    let others ← replaceSlices? text word value (start + byteWidth word) rest
    return kept ++ value ++ others

variable {word back : List Char}

theorem getLast?_cons_or (c : Char) (rest : List Char) (last : Option Char) :
    (c :: rest).getLast?.or last = rest.getLast?.or (some c) := by
  rw [List.getLast?_cons, Option.some_or, Option.or_some]

theorem getLast?_or_some (c : Char) (rest : List Char) :
    rest.getLast?.or (some c) = (c :: rest).getLast? := by
  rw [← getLast?_cons_or c rest none, Option.or_none]

theorem occurrencesFrom_passed (word passed rest : List Char) (last : Option Char) (column : Nat) :
    occurrencesFrom word passed.length last column (passed ++ rest) =
      occurrencesFrom word 0 (passed.getLast?.or last) (column + utf8Len passed) rest := by
  induction passed generalizing last column with
  | nil => rfl
  | cons c passed ih =>
    rw [List.length_cons, List.cons_append, occurrencesFrom, ih, getLast?_cons_or,
      String.utf8Len_cons, Nat.add_assoc, Nat.add_comm c.utf8Size]

theorem replaceFrom_dropped (value dropped rest : List Char) (last : Option Char) :
    replaceFrom word value dropped.length 0 last (dropped ++ rest) =
      replaceFrom word value 0 0 (dropped.getLast?.or last) rest := by
  induction dropped generalizing last with
  | nil => rfl
  | cons c dropped ih =>
    rw [List.length_cons, List.cons_append, replaceFrom, ih, getLast?_cons_or]

theorem replaceFrom_kept (value kept rest : List Char) (last : Option Char) :
    replaceFrom word value 0 kept.length last (kept ++ rest) =
      kept ++ replaceFrom word value 0 0 (kept.getLast?.or last) rest := by
  induction kept generalizing last with
  | nil => rfl
  | cons c kept ih =>
    rw [List.length_cons, List.cons_append, replaceFrom, ih, getLast?_cons_or, List.cons_append]

theorem occurrencesFrom_match (filled : word ≠ []) (last : Option Char) (column : Nat) :
    occurrencesFrom word 0 last column (word ++ back) =
      (if standsAlone last back then [column] else []) ++
        occurrencesFrom word 0 word.getLast? (column + utf8Len word) back := by
  obtain ⟨c, rest, rfl⟩ := List.exists_cons_of_ne_nil filled
  have found : stripFront (c :: rest) (c :: (rest ++ back)) = some back :=
    stripFront_eq_some_iff.mpr rfl
  have passed := occurrencesFrom_passed (c :: rest) rest back (some c) (column + c.utf8Size)
  have sized : column + c.utf8Size + utf8Len rest = column + utf8Len (c :: rest) := by
    rw [String.utf8Len_cons]
    omega
  rw [getLast?_or_some, sized] at passed
  rw [List.cons_append, occurrencesFrom, found]
  simp only [List.length_cons, Nat.add_sub_cancel, passed]
  rfl

theorem replaceFrom_match (filled : word ≠ []) (value : List Char) (last : Option Char) :
    replaceFrom word value 0 0 last (word ++ back) =
      (if standsAlone last back then value else word) ++
        replaceFrom word value 0 0 word.getLast? back := by
  obtain ⟨c, rest, rfl⟩ := List.exists_cons_of_ne_nil filled
  have found : stripFront (c :: rest) (c :: (rest ++ back)) = some back :=
    stripFront_eq_some_iff.mpr rfl
  rw [List.cons_append, replaceFrom, found]
  simp only [List.length_cons, Nat.add_sub_cancel, replaceFrom_dropped, replaceFrom_kept,
    getLast?_or_some]
  change (if standsAlone last back = true then _ else _) = _
  split <;> rfl

-- All of the text up to the end of `gone` is copied or replaced already, and `pending` is to be
-- copied together with what comes. The scan has come to `rest`.
theorem replaceSlices?_occurrencesFrom (filled : word ≠ []) (value gone pending rest : List Char) :
    replaceSlices? (gone ++ pending ++ rest) word value (utf8Len gone)
      (occurrencesFrom word 0 (gone ++ pending).getLast? (utf8Len (gone ++ pending)) rest) =
      some (pending ++ replaceFrom word value 0 0 (gone ++ pending).getLast? rest) := by
  rcases rest with _ | ⟨c, more⟩
  next => simp [occurrencesFrom, replaceFrom, filled, replaceSlices?, slice?_back_of]
  next =>
    cases found : stripFront word (c :: more) with
    | none =>
      have next := replaceSlices?_occurrencesFrom filled value gone (pending ++ [c]) more
      rw [occurrencesFrom, replaceFrom, found]
      simpa [Nat.add_assoc] using next
    | some back =>
      have filling := List.length_pos_of_ne_nil filled
      have shorter : back.length < more.length + 1 := by
        rw [← List.length_cons, stripFront_eq_some_iff.mp found, List.length_append]
        omega
      have ends (front : List Char) : (front ++ word).getLast? = word.getLast? :=
        List.getLast?_append_of_ne_nil front filled
      rw [stripFront_eq_some_iff.mp found, occurrencesFrom_match filled, replaceFrom_match filled]
      split
      next =>
        have kept := Utf8.slice?_append gone pending (word ++ back)
        have next := replaceSlices?_occurrencesFrom filled value (gone ++ pending ++ word) [] back
        rw [List.append_nil, ends, List.append_assoc _ word, String.utf8Len_append _ word] at next
        simp only [List.singleton_append, replaceSlices?, kept, byteWidth_eq word, next,
          Option.bind_eq_bind, Option.bind_some, Option.pure_def, List.nil_append]
        rw [List.append_assoc]
      next =>
        have next := replaceSlices?_occurrencesFrom filled value gone (pending ++ word) back
        rw [← List.append_assoc gone, ends, List.append_assoc _ word, String.utf8Len_append _ word]
          at next
        rw [List.nil_append, next, List.append_assoc]
termination_by rest.length

theorem replaceSlices?_eq (filled : word ≠ []) (value text : List Char) :
    replaceSlices? text word value 0 (occurrences text word) = some (replaceWord word value text) :=
  replaceSlices?_occurrencesFrom filled value [] [] text

end Replacement

section Definitions

def firstByte? (p : Char → Bool) : Nat → List Char → Option Nat
  | _, [] => none
  | column, c :: rest =>
    if p c then some column else firstByte? p (column + c.utf8Size) rest

def wordEnd? (text : List Char) : Option Nat := firstByte? isOther 0 text

def definedAfterSlice? (keyword rest : List Char) : Option (Option Definition) :=
  let stop := (wordEnd? rest).getD (byteWidth rest)
  if stop = 0 then some none
  else (Utf8.slice? rest 0 stop).map fun name => some { keyword, name }

def definitionSlices? (line : List Char) : Option (Option Definition) :=
  match stripFront "def ".toList line with
  | some rest => definedAfterSlice? "def ".toList rest
  | none =>
    match stripFront "class ".toList line with
    | some rest => definedAfterSlice? "class ".toList rest
    | none =>
      match wordEnd? line with
      | none => some none
      | some stop => do
        let rest ← Utf8.slice? line stop (byteWidth line)
        if stop ≠ 0 && " = ".toList.isPrefixOf rest then
          let name ← Utf8.slice? line 0 stop
          return some { keyword := [], name }
        else return none

theorem firstByte?_eq (column : Nat) (text : List Char) :
    firstByte? isOther column text =
      if text.dropWhile isWordChar = [] then none
      else some (column + utf8Len (text.takeWhile isWordChar)) := by
  induction text generalizing column with
  | nil => rfl
  | cons c rest ih =>
    cases inside : isWordChar c with
    | true =>
      have other : isOther c = false := isOther_eq_false.mpr inside
      simp [firstByte?, other, ih, inside, Nat.add_assoc, Nat.add_comm c.utf8Size]
    | false => simp [firstByte?, isOther_eq_true.mpr inside, inside]

theorem wordEnd?_getD (rest : List Char) :
    (wordEnd? rest).getD (byteWidth rest) = utf8Len (rest.takeWhile isWordChar) := by
  rw [wordEnd?, firstByte?_eq]
  split
  next nothing =>
    have whole := List.takeWhile_append_dropWhile (p := isWordChar) (l := rest)
    rw [nothing, List.append_nil] at whole
    rw [whole, Option.getD_none, byteWidth_eq]
  next => simp

theorem slice?_word (text : List Char) :
    Utf8.slice? text 0 (utf8Len (text.takeWhile isWordChar)) = some (text.takeWhile isWordChar) := by
  have cut := slice?_front_of (text.takeWhile isWordChar) (text.dropWhile isWordChar)
  rwa [List.takeWhile_append_dropWhile] at cut

theorem slice?_behind_word (text : List Char) :
    Utf8.slice? text (utf8Len (text.takeWhile isWordChar)) (byteWidth text) =
      some (text.dropWhile isWordChar) := by
  have cut := slice?_back_of (text.takeWhile isWordChar) (text.dropWhile isWordChar)
  rwa [List.takeWhile_append_dropWhile] at cut

theorem definedAfterSlice?_eq (keyword rest : List Char) :
    definedAfterSlice? keyword rest = some (definedAfter keyword rest) := by
  rw [definedAfterSlice?, definedAfter, wordEnd?_getD]
  by_cases nothing : rest.takeWhile isWordChar = []
  · simp [nothing]
  · simp [nothing, slice?_word]

theorem drop_length_takeWhile (text : List Char) :
    text.drop (text.takeWhile isWordChar).length = text.dropWhile isWordChar := by
  have whole := List.takeWhile_append_dropWhile (p := isWordChar) (l := text)
  rw [← List.append_right_inj (text.takeWhile isWordChar), whole]
  nth_rewrite 1 [List.prefix_iff_eq_take.mp (List.takeWhile_prefix isWordChar (l := text))]
  exact List.take_append_drop _ _

theorem definitionSlices?_eq (line : List Char) :
    definitionSlices? line = some (definition line) := by
  rw [definitionSlices?, definition]
  cases stripFront "def ".toList line with
  | some rest => exact definedAfterSlice?_eq _ _
  | none =>
    cases stripFront "class ".toList line with
    | some rest => exact definedAfterSlice?_eq _ _
    | none =>
      simp only [wordEnd?, firstByte?_eq, drop_length_takeWhile]
      by_cases nothing : line.dropWhile isWordChar = []
      next => simp [nothing]
      next =>
        have starts : decide (utf8Len (line.takeWhile isWordChar) ≠ 0) =
            !(line.takeWhile isWordChar).isEmpty := by
          simp only [ne_eq, String.utf8Len_eq_zero]
          cases line.takeWhile isWordChar <;> simp
        simp only [if_neg nothing, Nat.zero_add, slice?_behind_word, slice?_word, starts,
          Option.bind_eq_bind, Option.bind_some]
        split <;> rfl

end Definitions

end TextEngine

end PythonAssist
