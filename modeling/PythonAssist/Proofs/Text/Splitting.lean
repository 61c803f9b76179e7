import Mathlib.Data.List.TakeWhile
import PythonAssist.Text.Blank
import PythonAssist.Text.Split

set_option autoImplicit false

namespace PythonAssist

theorem takeWhile_append_eq {A : Type} {p : A → Bool} {front back : List A}
    (inside : ∀ a ∈ front, p a = true) (ends : ∀ a ∈ back.head?, p a = false) :
    (front ++ back).takeWhile p = front := by
  rw [List.takeWhile_append_of_pos inside]
  cases back with
  | nil => simp
  | cons a back => simp [ends a rfl]

theorem snoc_cut {A : Type} {items earlier later : List A} {last item : A}
    (cut : items ++ [last] = earlier ++ item :: later) :
    items = earlier ∧ last = item ∧ later = [] ∨
      ∃ others, items = earlier ++ item :: others ∧ later = others ++ [last] := by
  rcases later.eq_nil_or_concat with rfl | ⟨others, final, rfl⟩
  · obtain ⟨rfl, same⟩ := List.append_inj' cut rfl
    exact .inl ⟨rfl, List.singleton_inj.mp same, rfl⟩
  · rw [List.concat_eq_append, ← List.cons_append, ← List.append_assoc] at cut
    obtain ⟨rfl, same⟩ := List.append_inj' cut rfl
    exact .inr ⟨others, rfl, by rw [List.concat_eq_append, List.singleton_inj.mp same]⟩

theorem stripFront_eq_some_iff {front text rest : List Char} :
    stripFront front text = some rest ↔ text = front ++ rest := by
  fun_induction stripFront front text with
  | case1 text => simp [eq_comm]
  | case2 a front => simp
  | case3 a front text ih => simp [ih]
  | case4 a front b text different => simp [Ne.symm different]

theorem splitFirst_append {separator : Char} {front : List Char} (free : separator ∉ front)
    (back : List Char) :
    splitFirst separator (front ++ separator :: back) = some (front, back) := by
  induction front with
  | nil => simp [splitFirst]
  | cons c rest ih =>
    simp only [List.mem_cons, not_or] at free
    simp [splitFirst, Ne.symm free.1, ih free.2]

theorem splitFirst_eq_some {separator : Char} {text front back : List Char} :
    splitFirst separator text = some (front, back) ↔
      separator ∉ front ∧ text = front ++ separator :: back := by
  constructor
  · intro cut
    induction text generalizing front with
    | nil => cases cut
    | cons c rest ih =>
      rw [splitFirst] at cut
      split at cut
      next here =>
        cases cut
        exact ⟨List.not_mem_nil, by rw [here, List.nil_append]⟩
      next elsewhere =>
        obtain ⟨⟨others, behind⟩, later, same⟩ := Option.map_eq_some_iff.mp cut
        cases same
        obtain ⟨free, rfl⟩ := ih later
        exact ⟨List.not_mem_cons_of_ne_of_not_mem (Ne.symm elsewhere) free, rfl⟩
  · rintro ⟨free, rfl⟩
    exact splitFirst_append free back

theorem splitOn_of_not_mem {separator : Char} {text : List Char} (free : separator ∉ text) :
    splitOn separator text = [text] := by
  induction text with
  | nil => rfl
  | cons c rest ih =>
    simp only [List.mem_cons, not_or] at free
    simp [splitOn, Ne.symm free.1, ih free.2]

theorem splitOn_append {separator : Char} {front : List Char} (free : separator ∉ front)
    (back : List Char) :
    splitOn separator (front ++ separator :: back) = front :: splitOn separator back := by
  induction front with
  | nil => simp [splitOn]
  | cons c rest ih =>
    simp only [List.mem_cons, not_or] at free
    simp [splitOn, Ne.symm free.1, ih free.2]

-- Without any piece there is still the empty one.
theorem splitOn_intercalate {separator : Char} {pieces : List (List Char)} (filled : pieces ≠ [])
    (free : ∀ piece ∈ pieces, separator ∉ piece) :
    splitOn separator (List.intercalate [separator] pieces) = pieces := by
  induction pieces with
  | nil => exact absurd rfl filled
  | cons piece others ih =>
    have first := free piece List.mem_cons_self
    cases others with
    | nil => rw [List.intercalate_singleton, splitOn_of_not_mem first]
    | cons next rest =>
      have later := fun piece member => free piece (List.mem_cons_of_mem _ member)
      rw [List.intercalate_cons_cons, List.append_assoc, List.singleton_append,
        splitOn_append first, ih (List.cons_ne_nil _ _) later]

theorem unsigned?_eq_some {limit n : Nat} {text : List Char} :
    unsigned? limit text = some n ↔ ∃ digits, (text = digits ∨ text = '+' :: digits) ∧
      digits ≠ [] ∧ (∀ c ∈ digits, c.isDigit = true) ∧ natOfDigits digits = n ∧ n < limit := by
  have counted : ∀ digits : List Char,
      (if digits.isEmpty || !digits.all Char.isDigit then none
        else if natOfDigits digits < limit then some (natOfDigits digits) else none) = some n ↔
      digits ≠ [] ∧ (∀ c ∈ digits, c.isDigit = true) ∧ natOfDigits digits = n ∧ n < limit := by
    intro digits
    grind [List.all_eq_true, List.isEmpty_iff]
  unfold unsigned?
  split
  next digits =>
    rw [counted]
    constructor
    · exact fun read => ⟨digits, .inr rfl, read⟩
    · rintro ⟨others, rfl | same, read⟩
      · have := read.2.1 '+' List.mem_cons_self
        simp at this
      · cases same
        exact read
  next unsigned =>
    rw [counted]
    constructor
    · exact fun read => ⟨text, .inl rfl, read⟩
    · rintro ⟨digits, rfl | rfl, read⟩
      · exact read
      · exact absurd rfl (unsigned digits)

theorem dropWhile_isWhiteSpace {text : List Char} (solid : ∀ c ∈ text, isWhiteSpace c = false) :
    text.dropWhile isWhiteSpace = text := by
  cases text with
  | nil => rfl
  | cons c rest => simp [List.dropWhile, solid c List.mem_cons_self]

theorem trimChars_of_solid {word : List Char} (solid : ∀ c ∈ word, isWhiteSpace c = false) :
    trimChars word = word := by
  have back := dropWhile_isWhiteSpace fun c member => solid c (List.mem_reverse.mp member)
  rw [trimChars, trimFront, dropWhile_isWhiteSpace solid, trimBack, back, List.reverse_reverse]

theorem trimChars_space (text : List Char) : trimChars (' ' :: text) = trimChars text := by
  have blank : isWhiteSpace ' ' = true := by decide
  rw [trimChars, trimChars, trimFront, trimFront, List.dropWhile_cons_of_pos blank]

theorem mem_dropWhile {text : List Char} {c : Char} (member : c ∈ text)
    (solid : isWhiteSpace c = false) : c ∈ text.dropWhile isWhiteSpace := by
  rw [← List.takeWhile_append_dropWhile (p := isWhiteSpace) (l := text), List.mem_append] at member
  refine member.resolve_left fun blank => ?_
  rw [List.mem_takeWhile_imp blank] at solid
  cases solid

theorem mem_trimChars {text : List Char} {c : Char} (member : c ∈ text)
    (solid : isWhiteSpace c = false) : c ∈ trimChars text := by
  have front : c ∈ trimFront text := mem_dropWhile member solid
  exact List.mem_reverse.mpr (mem_dropWhile (List.mem_reverse.mpr front) solid)

end PythonAssist
