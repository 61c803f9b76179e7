import PythonAssist.Proofs.TextEngine.WordSlices
import PythonAssist.Proofs.Wire.Header

set_option autoImplicit false

namespace PythonAssist

namespace TextEngine

open String (utf8Len)

def bytesOf (text : List Char) : Bytes := text.flatMap String.utf8EncodeChar

theorem bytesOf_eq (text : List Char) : Utf8.encode (String.ofList text) = bytesOf text := by
  rw [Utf8.encode_eq, bytesOf]
  simp [List.utf8Encode]

@[simp] theorem bytesOf_append (front back : List Char) :
    bytesOf (front ++ back) = bytesOf front ++ bytesOf back := List.flatMap_append

theorem bytesOf_cons (c : Char) (rest : List Char) :
    bytesOf (c :: rest) = String.utf8EncodeChar c ++ bytesOf rest := List.flatMap_cons

@[simp] theorem length_bytesOf (text : List Char) : (bytesOf text).length = utf8Len text := by
  induction text with
  | nil => rfl
  | cons c rest ih =>
    rw [bytesOf_cons, List.length_append, String.length_utf8EncodeChar, ih, String.utf8Len_cons,
      Nat.add_comm]

-- A byte is read as if it were a character of its own.
def isWordByte (b : UInt8) : Bool := isWordChar (Char.ofNat b.toNat)

theorem toNat_of_isWordChar {c : Char} (inside : isWordChar c = true) : c.toNat < 128 := by
  rw [isWordChar, Bool.or_eq_true, beq_iff_eq] at inside
  rcases inside with letter | rfl
  · simp only [Char.isAlphanum, Char.isAlpha, Char.isUpper, Char.isLower, Char.isDigit,
      Bool.or_eq_true, Bool.and_eq_true, decide_eq_true_eq, UInt32.le_iff_toNat_le, ge_iff_le]
      at letter
    have same : c.toNat = c.val.toNat := rfl
    have bounds : 'Z'.val.toNat = 90 ∧ 'z'.val.toNat = 122 ∧ '9'.val.toNat = 57 := ⟨rfl, rfl, rfl⟩
    omega
  · decide

theorem bytes_of_narrow {c : Char} (narrow : c.utf8Size = 1) :
    ∃ b, String.utf8EncodeChar c = [b] ∧ isWordByte b = isWordChar c := by
  refine ⟨c.val.toUInt8, String.utf8EncodeChar_eq_singleton narrow, ?_⟩
  have bound := UInt32.le_iff_toNat_le.mp (Char.utf8Size_eq_one_iff.mp narrow)
  have same : c.val.toUInt8.toNat = c.toNat := by
    rw [UInt32.toNat_toUInt8]
    exact Nat.mod_eq_of_lt (Nat.lt_of_le_of_lt bound (by decide))
  rw [isWordByte, same, Char.ofNat_toNat]

theorem isWordByte_of_large {b : UInt8} (large : 128 ≤ b.toNat) : isWordByte b = false := by
  by_contra inside
  rw [Bool.not_eq_false] at inside
  have small := toNat_of_isWordChar inside
  have valid : b.toNat.isValidChar := .inl (Nat.lt_trans b.toNat_lt (by decide))
  rw [Char.toNat_ofNat, if_pos valid] at small
  omega

theorem bytes_of_wide {c : Char} (wide : 1 < c.utf8Size) {b : UInt8}
    (member : b ∈ String.utf8EncodeChar c) : 128 ≤ b.toNat := by
  have beyond : ¬ c.val.toNat ≤ 127 := by
    intro small
    have narrow := Char.utf8Size_eq_one_iff.mpr (UInt32.le_iff_toNat_le.mpr small)
    omega
  simp only [String.utf8EncodeChar, if_neg beyond] at member
  repeat' split at member
  all_goals
    simp only [List.mem_cons, List.not_mem_nil, or_false] at member
    rcases member with rfl | rfl | rfl | rfl <;> simp <;> omega

theorem utf8Size_of_isWordChar {c : Char} (inside : isWordChar c = true) : c.utf8Size = 1 :=
  Char.utf8Size_eq_one_iff.mpr
    (UInt32.le_iff_toNat_le.mpr (Nat.le_of_lt_succ (toNat_of_isWordChar inside)))

theorem isWordByte_of_word {c : Char} (inside : isWordChar c = true) {b : UInt8}
    (member : b ∈ String.utf8EncodeChar c) : isWordByte b = true := by
  obtain ⟨d, encoded, same⟩ := bytes_of_narrow (utf8Size_of_isWordChar inside)
  rw [encoded, List.mem_singleton] at member
  rw [member, same, inside]

theorem isWordByte_of_other {c : Char} (outside : isWordChar c = false) {b : UInt8}
    (member : b ∈ String.utf8EncodeChar c) : isWordByte b = false := by
  by_cases narrow : c.utf8Size = 1
  next =>
    obtain ⟨d, encoded, same⟩ := bytes_of_narrow narrow
    rw [encoded, List.mem_singleton] at member
    rw [member, same, outside]
  next =>
    have size := c.utf8Size_pos
    exact isWordByte_of_large (bytes_of_wide (by omega) member)

section Runs

variable {A : Type} {f : A → Bytes} {p : UInt8 → Bool} {q : A → Bool}

theorem takeWhile_flatMap (filled : ∀ a, f a ≠ []) (inside : ∀ a, q a = true → ∀ b ∈ f a, p b = true)
    (outside : ∀ a, q a = false → ∀ b ∈ f a, p b = false) (text : List A) :
    (text.flatMap f).takeWhile p = (text.takeWhile q).flatMap f := by
  induction text with
  | nil => rfl
  | cons a rest ih =>
    rw [List.flatMap_cons]
    cases holds : q a with
    | true =>
      rw [List.takeWhile_append_of_pos (inside a holds), ih, List.takeWhile_cons_of_pos holds,
        List.flatMap_cons]
    | false =>
      obtain ⟨b, others, encoded⟩ := List.exists_cons_of_ne_nil (filled a)
      have first := outside a holds b (by simp [encoded])
      simp [encoded, first, holds]

end Runs

theorem utf8EncodeChar_ne_nil (c : Char) : String.utf8EncodeChar c ≠ [] :=
  List.ne_nil_of_length_pos (by simpa using c.utf8Size_pos)

theorem takeWhile_bytesOf (text : List Char) :
    (bytesOf text).takeWhile isWordByte = bytesOf (text.takeWhile isWordChar) :=
  takeWhile_flatMap utf8EncodeChar_ne_nil (fun _ inside _ => isWordByte_of_word inside)
    (fun _ outside _ => isWordByte_of_other outside) text

theorem takeWhile_reverse_bytesOf (text : List Char) :
    ((bytesOf text).reverse.takeWhile isWordByte).length =
      utf8Len (text.reverse.takeWhile isWordChar) := by
  have backwards : ∀ kept : List Char,
      kept.flatMap (List.reverse ∘ String.utf8EncodeChar) = (bytesOf kept.reverse).reverse := by
    intro kept
    rw [bytesOf, List.reverse_flatMap, List.reverse_reverse]
  have runs := takeWhile_flatMap (f := List.reverse ∘ String.utf8EncodeChar) (p := isWordByte)
    (q := isWordChar) (fun c => List.reverse_ne_nil_iff.mpr (utf8EncodeChar_ne_nil c))
    (fun c inside b member => isWordByte_of_word inside (List.mem_reverse.mp member))
    (fun c outside b member => isWordByte_of_other outside (List.mem_reverse.mp member))
    text.reverse
  rw [backwards, List.reverse_reverse] at runs
  rw [runs, backwards, List.length_reverse, length_bytesOf]
  simp

section Cursor

def cursorSlice? (text : List Char) (column : Nat) : Option (Option (List Char)) :=
  let bytes := Utf8.encode (String.ofList text)
  if bytes[column]?.any isWordByte then
    let front := (bytes.take (column + 1)).reverse.takeWhile isWordByte
    let back := (bytes.drop column).takeWhile isWordByte
    (Utf8.slice? text (column + 1 - front.length) (column + back.length)).map some
  else some none

theorem getElem?_bytesOf (front rest : List Char) :
    (bytesOf (front ++ rest))[utf8Len front]? = (bytesOf rest).head? := by
  rw [bytesOf_append, List.getElem?_append_right (by simp), length_bytesOf, Nat.sub_self,
    List.head?_eq_getElem?]

theorem head?_bytesOf (rest : List Char) :
    (bytesOf rest).head?.any isWordByte = isWordAt rest.head? := by
  cases rest with
  | nil => rfl
  | cons c rest =>
    obtain ⟨b, others, encoded⟩ := List.exists_cons_of_ne_nil (utf8EncodeChar_ne_nil c)
    have first : b ∈ String.utf8EncodeChar c := by simp [encoded]
    rw [bytesOf_cons, encoded]
    cases holds : isWordChar c with
    | true => simp [isWordAt, holds, isWordByte_of_word holds first]
    | false => simp [isWordAt, holds, isWordByte_of_other holds first]

theorem getElem?_between {text : List Char} {column : Nat} (between : bytePrefix? column text = none)
    {b : UInt8} (found : (bytesOf text)[column]? = some b) : isWordByte b = false := by
  induction text generalizing column with
  | nil => cases found
  | cons c rest ih =>
    cases column with
    | zero => cases between
    | succ column =>
      rw [bytesOf_cons] at found
      rw [bytePrefix?] at between
      split at between
      next beyond =>
        rw [List.getElem?_append_left (by simpa using beyond)] at found
        exact isWordByte_of_large (bytes_of_wide (by omega) (List.mem_of_getElem? found))
      next fits =>
        rw [List.getElem?_append_right (by simpa using fits)] at found
        exact ih (Option.map_eq_none_iff.mp between) (by simpa using found)

theorem length_run_before {c : Char} (inside : isWordChar c = true) (front more : List Char) :
    (((bytesOf (front ++ c :: more)).take (utf8Len front + 1)).reverse.takeWhile
      isWordByte).length = utf8Len (front.reverse.takeWhile isWordChar) + 1 := by
  have single := utf8Size_of_isWordChar inside
  have size : utf8Len front + 1 = (bytesOf (front ++ [c])).length := by simp [single]
  have whole : bytesOf (front ++ c :: more) = bytesOf (front ++ [c]) ++ bytesOf more := by
    rw [← bytesOf_append, List.append_assoc, List.singleton_append]
  rw [size, whole, List.take_left, takeWhile_reverse_bytesOf]
  simp [inside, single]

theorem length_run_behind (front rest : List Char) :
    (((bytesOf (front ++ rest)).drop (utf8Len front)).takeWhile isWordByte).length =
      utf8Len (rest.takeWhile isWordChar) := by
  rw [bytesOf_append, ← length_bytesOf front, List.drop_left, takeWhile_bytesOf, length_bytesOf]

theorem slice?_around (front rest : List Char) :
    Utf8.slice? (front ++ rest) (utf8Len front - utf8Len (front.reverse.takeWhile isWordChar))
      (utf8Len front + utf8Len (rest.takeWhile isWordChar)) =
      some ((front.reverse.takeWhile isWordChar).reverse ++ rest.takeWhile isWordChar) := by
  generalize back : front.reverse.takeWhile isWordChar = run
  have reversed : front.reverse = run ++ front.reverse.dropWhile isWordChar := by
    rw [← back, List.takeWhile_append_dropWhile]
  have cut : front = (front.reverse.dropWhile isWordChar).reverse ++ run.reverse := by
    rw [← List.reverse_append, ← reversed, List.reverse_reverse]
  generalize (front.reverse.dropWhile isWordChar).reverse = kept at cut
  subst cut
  rw [Utf8.slice?_eq_some_iff]
  refine ⟨kept, rest.dropWhile isWordChar, ?_, ?_, ?_⟩
  · simp [List.takeWhile_append_dropWhile]
  · simp
  · simp [Nat.add_assoc]

theorem cursorSlice?_eq (text : List Char) (column : Nat) :
    cursorSlice? text column = some (wordAt text column) := by
  rw [cursorSlice?, wordAt, bytesOf_eq]
  cases found : bytePrefix? column text with
  | none =>
    have outside : ((bytesOf text)[column]?).any isWordByte = false := by
      rw [Option.any_eq_false]
      exact fun b member => by simpa using getElem?_between found member
    simp [outside]
  | some front =>
    obtain ⟨⟨rest, rfl⟩, rfl⟩ := bytePrefix?_eq_some_iff.mp found
    simp only [getElem?_bytesOf, head?_bytesOf, List.drop_left]
    by_cases covered : isWordAt rest.head? = true
    next =>
      obtain ⟨c, first, inside⟩ := (Option.any_eq_true _ _).mp covered
      obtain ⟨more, rfl⟩ := List.head?_eq_some_iff.mp first
      rw [if_pos covered, if_pos covered, length_run_before inside, length_run_behind,
        Nat.add_sub_add_right, slice?_around]
      rfl
    next => simp [covered]

theorem wordAt_eq_some {text word : List Char} {column : Nat}
    (found : wordAt text column = some word) :
    ∃ front rest : List Char, isWordAt rest.head? = true ∧
      word = (front.reverse.takeWhile isWordChar).reverse ++ rest.takeWhile isWordChar := by
  rw [wordAt] at found
  split at found
  next => cases found
  next front _ =>
    dsimp only at found
    split at found
    next covered => exact ⟨front, _, covered, (Option.some_inj.mp found).symm⟩
    next => cases found

theorem wordAt_ne_nil {text word : List Char} {column : Nat} (found : wordAt text column = some word) :
    word ≠ [] := by
  obtain ⟨front, rest, covered, rfl⟩ := wordAt_eq_some found
  obtain ⟨c, first, inside⟩ := (Option.any_eq_true _ _).mp covered
  obtain ⟨more, rfl⟩ := List.head?_eq_some_iff.mp first
  simp [inside]

end Cursor

end TextEngine

end PythonAssist
