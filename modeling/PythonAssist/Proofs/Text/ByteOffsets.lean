import Mathlib
import PythonAssist.Engine.Payload

set_option autoImplicit false

namespace PythonAssist

open String (utf8Len)

theorem bytePrefix?_eq_some_iff {size : Nat} {text front : List Char} :
    bytePrefix? size text = some front ↔ front <+: text ∧ utf8Len front = size := by
  induction text generalizing size front with
  | nil => cases size <;> simp +contextual [bytePrefix?, eq_comm]
  | cons c rest ih =>
    cases size with
    | zero =>
      rw [bytePrefix?, Option.some_inj, String.utf8Len_eq_zero]
      constructor
      · rintro rfl
        exact ⟨List.nil_prefix, rfl⟩
      · exact fun both => both.2.symm
    | succ size =>
      rw [bytePrefix?]
      have wide := c.utf8Size_pos
      split
      next beyond =>
        refine ⟨nofun, ?_⟩
        rintro ⟨inside, sized⟩
        cases front with
        | nil => cases sized
        | cons d front =>
          obtain ⟨rfl, -⟩ := List.cons_prefix_cons.mp inside
          rw [String.utf8Len_cons] at sized
          omega
      next fits =>
        simp only [Option.map_eq_some_iff, ih]
        constructor
        · rintro ⟨front, ⟨inside, sized⟩, rfl⟩
          exact ⟨List.cons_prefix_cons.mpr ⟨rfl, inside⟩, by rw [String.utf8Len_cons]; omega⟩
        · rintro ⟨inside, sized⟩
          cases front with
          | nil => cases sized
          | cons d front =>
            obtain ⟨rfl, others⟩ := List.cons_prefix_cons.mp inside
            rw [String.utf8Len_cons] at sized
            exact ⟨front, ⟨others, by omega⟩, rfl⟩

theorem length_le_utf8Len (text : List Char) : text.length ≤ utf8Len text := by
  induction text with
  | nil => exact Nat.le_refl 0
  | cons c rest ih =>
    have wide := c.utf8Size_pos
    rw [List.length_cons, String.utf8Len_cons]
    omega

theorem utf8Len_eq_length_iff {text : List Char} :
    utf8Len text = text.length ↔ ∀ c ∈ text, c.utf8Size = 1 := by
  induction text with
  | nil => simp
  | cons c rest ih =>
    have wide := c.utf8Size_pos
    have others := length_le_utf8Len rest
    rw [List.forall_mem_cons, ← ih, List.length_cons, String.utf8Len_cons]
    omega

theorem prefix_of_utf8Len_le {text front other : List Char} (first : front <+: text)
    (second : other <+: text) (sizes : utf8Len front ≤ utf8Len other) : front <+: other := by
  rcases List.prefix_or_prefix_of_prefix first second with inside | ⟨more, rfl⟩
  next => exact inside
  next =>
    rw [String.utf8Len_append] at sizes
    have nothing : utf8Len more = 0 := by omega
    rw [String.utf8Len_eq_zero.mp nothing, List.append_nil]

theorem eq_of_prefix_of_utf8Len {text front other : List Char} (first : front <+: text)
    (second : other <+: text) (sizes : utf8Len front = utf8Len other) : front = other :=
  (prefix_of_utf8Len_le first second sizes.le).eq_of_length_le
    (prefix_of_utf8Len_le second first sizes.ge).length_le

theorem utf8Len_of_prefix {text front other back : List Char} {c : Char}
    (whole : text = front ++ c :: back) (inside : other <+: text) :
    utf8Len other ≤ utf8Len front ∨ utf8Len front + c.utf8Size ≤ utf8Len other := by
  have behind : front ++ [c] <+: text := ⟨back, by simp [whole]⟩
  rcases List.prefix_or_prefix_of_prefix inside behind with before | after
  · rcases List.prefix_concat_iff.mp before with rfl | shorter
    · exact .inr (by simp)
    · exact .inl (String.utf8Len_le_of_prefix shorter)
  · have counted := String.utf8Len_le_of_prefix after
    exact .inr (by simpa using counted)

namespace Utf8

-- The characters between two byte offsets. There is nothing to take when an offset stands inside
-- a character or behind the text, or when the offsets are the wrong way round.
def slice? (text : List Char) (start stop : Nat) : Option (List Char) := do
  let front ← bytePrefix? start text
  if start ≤ stop then bytePrefix? (stop - start) (text.drop front.length) else none

theorem slice?_eq_some_iff {text middle : List Char} {start stop : Nat} :
    slice? text start stop = some middle ↔ ∃ front back, text = front ++ middle ++ back ∧
      utf8Len front = start ∧ utf8Len (front ++ middle) = stop := by
  simp only [slice?, Option.bind_eq_bind, Option.bind_eq_some_iff, bytePrefix?_eq_some_iff,
    Option.ite_none_right_eq_some, String.utf8Len_append]
  constructor
  · rintro ⟨front, ⟨⟨back, rfl⟩, rfl⟩, ordered, inside, sized⟩
    rw [List.drop_left] at inside
    obtain ⟨behind, rfl⟩ := inside
    exact ⟨front, behind, by simp, rfl, by omega⟩
  · rintro ⟨front, back, rfl, rfl, rfl⟩
    refine ⟨front, ⟨⟨middle ++ back, by simp⟩, rfl⟩, by omega, ?_, by omega⟩
    rw [List.append_assoc, List.drop_left]
    exact List.prefix_append middle back

theorem slice?_append (front middle back : List Char) :
    slice? (front ++ middle ++ back) (utf8Len front) (utf8Len (front ++ middle)) = some middle :=
  slice?_eq_some_iff.mpr ⟨front, back, rfl, rfl, rfl⟩

end Utf8

end PythonAssist
