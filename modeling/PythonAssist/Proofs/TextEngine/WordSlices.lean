import PythonAssist.Proofs.Text.ByteOffsets
import PythonAssist.TextEngine.Script

set_option autoImplicit false

namespace PythonAssist

namespace TextEngine

open String (utf8Len)

theorem byteWidth_eq (text : List Char) : byteWidth text = utf8Len text := by
  induction text with
  | nil => rfl
  | cons c rest ih => rw [byteWidth, ih, String.utf8Len_cons, Nat.add_comm]

def lastByte? (p : Char → Bool) : Nat → List Char → Option Nat
  | _, [] => none
  | column, c :: rest =>
    (lastByte? p (column + c.utf8Size) rest).or (if p c then some column else none)

theorem lastByte?_eq_none {p : Char → Bool} {text : List Char} (free : ∀ c ∈ text, p c = false)
    (column : Nat) : lastByte? p column text = none := by
  induction text generalizing column with
  | nil => rfl
  | cons c rest ih =>
    obtain ⟨first, others⟩ := List.forall_mem_cons.mp free
    simp [lastByte?, ih others, first]

theorem lastByte?_append {p : Char → Bool} {c : Char} {back : List Char} (holds : p c = true)
    (free : ∀ d ∈ back, p d = false) (front : List Char) (column : Nat) :
    lastByte? p column (front ++ c :: back) = some (column + utf8Len front) := by
  induction front generalizing column with
  | nil => simp [lastByte?, lastByte?_eq_none free, holds]
  | cons d front ih =>
    rw [List.cons_append, lastByte?, ih, Option.some_or, String.utf8Len_cons]
    congr 1
    omega

theorem exists_last (p : Char → Bool) (text : List Char) :
    (∀ c ∈ text, p c = false) ∨
      ∃ front c back, text = front ++ c :: back ∧ p c = true ∧ ∀ d ∈ back, p d = false := by
  induction text with
  | nil => exact .inl nofun
  | cons c rest ih =>
    rcases ih with free | ⟨front, d, back, rfl, holds, free⟩
    next =>
      by_cases first : p c = true
      next => exact .inr ⟨[], c, rest, rfl, first, free⟩
      next =>
        rw [Bool.not_eq_true] at first
        exact .inl (List.forall_mem_cons.mpr ⟨first, free⟩)
    next => exact .inr ⟨c :: front, d, back, rfl, holds, free⟩

section LastWord

def isOther (c : Char) : Bool := !isWordChar c

-- One byte behind the last character that belongs to no word.
def wordStart (text : List Char) : Nat := ((lastByte? isOther 0 text).map (· + 1)).getD 0

def lastWordSlice? (text : List Char) : Option (List Char) :=
  Utf8.slice? text (wordStart text) (byteWidth text)

def BehindWide (text : List Char) : Prop :=
  ∃ front c word, text = front ++ c :: word ∧ isWordChar c = false ∧ 1 < c.utf8Size ∧
    ∀ d ∈ word, isWordChar d = true

theorem isOther_eq_false {c : Char} : isOther c = false ↔ isWordChar c = true := by
  simp [isOther]

theorem isOther_eq_true {c : Char} : isOther c = true ↔ isWordChar c = false := by
  simp [isOther]

variable {front word text : List Char} {c : Char}

theorem takeWhile_word (inside : ∀ d ∈ word, isWordChar d = true) (other : isWordChar c = false) :
    (front ++ c :: word).reverse.takeWhile isWordChar = word.reverse := by
  rw [List.reverse_append, List.reverse_cons, List.append_assoc, List.takeWhile_append_of_pos]
  · simp [other]
  · exact fun d member => inside d (List.mem_reverse.mp member)

theorem lastWord_of_word (inside : ∀ d ∈ word, isWordChar d = true) :
    lastWord word = .word word := by
  have all : ∀ d ∈ word.reverse, isWordChar d = true :=
    fun d member => inside d (List.mem_reverse.mp member)
  rw [lastWord, List.dropWhile_eq_nil_iff.mpr all, List.takeWhile_eq_self_iff.mpr all]
  simp

theorem lastWord_append (inside : ∀ d ∈ word, isWordChar d = true) (other : isWordChar c = false) :
    lastWord (front ++ c :: word) = if c.utf8Size = 1 then .word word else .broken := by
  have rest : (front ++ c :: word).reverse.dropWhile isWordChar = c :: front.reverse := by
    rw [List.reverse_append, List.reverse_cons, List.append_assoc, List.dropWhile_append_of_pos]
    · simp [other]
    · exact fun d member => inside d (List.mem_reverse.mp member)
  rw [lastWord, takeWhile_word inside other, rest, List.reverse_reverse]
  rfl

theorem lastWordSlice?_of_word (inside : ∀ d ∈ word, isWordChar d = true) :
    lastWordSlice? word = some word := by
  have free : ∀ d ∈ word, isOther d = false :=
    fun d member => isOther_eq_false.mpr (inside d member)
  have sliced := Utf8.slice?_append [] word []
  rw [List.append_nil, List.nil_append] at sliced
  rw [lastWordSlice?, wordStart, lastByte?_eq_none free, byteWidth_eq]
  exact sliced

theorem lastWordSlice?_append (inside : ∀ d ∈ word, isWordChar d = true)
    (other : isWordChar c = false) :
    lastWordSlice? (front ++ c :: word) = if c.utf8Size = 1 then some word else none := by
  have free : ∀ d ∈ word, isOther d = false :=
    fun d member => isOther_eq_false.mpr (inside d member)
  have start : wordStart (front ++ c :: word) = utf8Len front + 1 := by
    rw [wordStart, lastByte?_append (isOther_eq_true.mpr other) free, Nat.zero_add]
    rfl
  rw [lastWordSlice?, start, byteWidth_eq]
  split
  next single =>
    have sliced := Utf8.slice?_append (front ++ [c]) word []
    rw [List.append_nil] at sliced
    have counted : utf8Len (front ++ [c]) = utf8Len front + 1 := by simp [single]
    rw [counted] at sliced
    simpa using sliced
  next wide =>
    rw [Option.eq_none_iff_forall_ne_some]
    intro middle sliced
    obtain ⟨before, after, whole, counted, -⟩ := Utf8.slice?_eq_some_iff.mp sliced
    have size := c.utf8Size_pos
    have inFront : before <+: front ++ c :: word := ⟨middle ++ after, by simp [whole]⟩
    have ends := utf8Len_of_prefix rfl inFront
    omega

theorem lastWordSlice?_eq (text : List Char) :
    lastWordSlice? text = match lastWord text with
      | .word word => some word
      | .broken => none := by
  rcases exists_last isOther text with inside | ⟨front, c, word, rfl, other, inside⟩
  · have inside := fun d member => isOther_eq_false.mp (inside d member)
    rw [lastWordSlice?_of_word inside, lastWord_of_word inside]
  · have inside := fun d member => isOther_eq_false.mp (inside d member)
    have other := isOther_eq_true.mp other
    rw [lastWordSlice?_append inside other, lastWord_append inside other]
    split <;> rfl

theorem lastWord_eq_broken_iff : lastWord text = .broken ↔ BehindWide text := by
  constructor
  · intro broken
    rcases exists_last isOther text with inside | ⟨front, c, word, rfl, other, inside⟩
    · rw [lastWord_of_word fun d member => isOther_eq_false.mp (inside d member)] at broken
      cases broken
    · have inside := fun d member => isOther_eq_false.mp (inside d member)
      have other := isOther_eq_true.mp other
      have size := c.utf8Size_pos
      rw [lastWord_append inside other] at broken
      split at broken
      next => cases broken
      next wide => exact ⟨front, c, word, rfl, other, by omega, inside⟩
  · rintro ⟨front, c, word, rfl, other, wide, inside⟩
    rw [lastWord_append inside other, if_neg (by omega)]

theorem lastWordSlice?_eq_none_iff : lastWordSlice? text = none ↔ BehindWide text := by
  rw [← lastWord_eq_broken_iff, lastWordSlice?_eq]
  cases lastWord text <;> simp

end LastWord

section Calls

open Script

def callSlices? (before : List Char) : Option (Option (List Char × List Char)) :=
  match lastByte? (· == '(') 0 before with
  | none => some none
  | some opened => do
    let front ← Utf8.slice? before 0 opened
    let name ← Utf8.slice? before (wordStart front) opened
    let inside ← Utf8.slice? before opened (byteWidth before)
    return some (name, inside)

theorem splitCall_of_not_mem {text : List Char} (free : ∀ c ∈ text, (c == '(') = false) :
    splitCall text = none := by
  have all : ∀ c ∈ text.reverse, (c != '(') = true := fun c member => by
    simpa using free c (List.mem_reverse.mp member)
  simp [splitCall, List.takeWhile_eq_self_iff.mpr all]

theorem splitCall_append {inside : List Char} (free : ∀ c ∈ inside, (c == '(') = false)
    (front : List Char) : splitCall (front ++ '(' :: inside) = some (front, inside) := by
  have all : ∀ c ∈ inside.reverse, (c != '(') = true := fun c member => by
    simpa using free c (List.mem_reverse.mp member)
  have found : (front ++ '(' :: inside).reverse.takeWhile (· != '(') = inside.reverse := by
    rw [List.reverse_append, List.reverse_cons, List.append_assoc, List.takeWhile_append_of_pos all]
    simp
  have counted : (front ++ '(' :: inside).length - inside.length - 1 = front.length := by
    simp
    omega
  rw [splitCall, found, List.reverse_reverse, counted, List.take_left, if_neg (by simp; omega)]

-- The name lies at the end of the front, so both cuts meet the same bytes.
theorem slice?_front (front back : List Char) (start : Nat) :
    Utf8.slice? (front ++ back) start (utf8Len front) = Utf8.slice? front start (utf8Len front) := by
  apply Option.ext
  intro middle
  simp only [Utf8.slice?_eq_some_iff]
  constructor
  · rintro ⟨before, after, whole, counted, ends⟩
    have same : before ++ middle = front :=
      eq_of_prefix_of_utf8Len ⟨after, whole.symm⟩ (List.prefix_append front back) ends
    exact ⟨before, [], by simp [same], counted, by rw [same]⟩
  · rintro ⟨before, after, rfl, counted, ends⟩
    refine ⟨before, after ++ back, by simp, counted, ends⟩

theorem callSlices?_eq (before : List Char) :
    callSlices? before = match splitCall before with
      | none => some none
      | some (front, inside) => (lastWordSlice? front).map fun name => some (name, '(' :: inside) := by
  rcases exists_last (· == '(') before with free | ⟨front, c, inside, rfl, opens, free⟩
  · rw [callSlices?, lastByte?_eq_none free, splitCall_of_not_mem free]
  · obtain rfl := beq_iff_eq.mp opens
    have name := slice?_front front ('(' :: inside) (wordStart front)
    have called := Utf8.slice?_append [] front ('(' :: inside)
    have opened := Utf8.slice?_append front ('(' :: inside) []
    rw [List.nil_append] at called
    rw [List.append_nil] at opened
    rw [callSlices?, lastByte?_append (p := (· == '(')) opens free, splitCall_append free]
    simp only [Nat.zero_add, byteWidth_eq, lastWordSlice?]
    rw [show (0 : Nat) = utf8Len [] from rfl, called]
    simp only [Option.bind_eq_bind, Option.bind_some, name, opened]
    cases Utf8.slice? front (wordStart front) (utf8Len front) <;> rfl

def CallBehindWide (text : List Char) : Prop :=
  ∃ front inside, text = front ++ '(' :: inside ∧ '(' ∉ inside ∧ BehindWide front

theorem splitCall_eq_some_iff {text front inside : List Char} :
    splitCall text = some (front, inside) ↔ text = front ++ '(' :: inside ∧ '(' ∉ inside := by
  have closed {text : List Char} : (∀ c ∈ text, (c == '(') = false) ↔ '(' ∉ text :=
    ⟨fun free member => absurd (free _ member) (by decide),
      fun absent c member => beq_eq_false_iff_ne.mpr fun same => absent (same ▸ member)⟩
  constructor
  · intro split
    rcases exists_last (· == '(') text with free | ⟨front, c, inside, rfl, opens, free⟩
    · cases (splitCall_of_not_mem free).symm.trans split
    · obtain rfl := beq_iff_eq.mp opens
      cases (splitCall_append free front).symm.trans split
      exact ⟨rfl, closed.mp free⟩
  · rintro ⟨rfl, free⟩
    exact splitCall_append (closed.mpr free) front

theorem callSlices?_eq_none_iff {text : List Char} :
    callSlices? text = none ↔ CallBehindWide text := by
  rw [callSlices?_eq]
  constructor
  · intro fails
    cases split : splitCall text with
    | none =>
      rw [split] at fails
      cases fails
    | some call =>
      rw [split] at fails
      obtain ⟨whole, free⟩ := splitCall_eq_some_iff.mp split
      exact ⟨_, _, whole, free, lastWordSlice?_eq_none_iff.mp (Option.map_eq_none_iff.mp fails)⟩
  · rintro ⟨front, inside, whole, free, wide⟩
    rw [splitCall_eq_some_iff.mpr ⟨whole, free⟩]
    exact Option.map_eq_none_iff.mpr (lastWordSlice?_eq_none_iff.mpr wide)

end Calls

end TextEngine

end PythonAssist
