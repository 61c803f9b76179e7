import Mathlib.Data.List.Basic
import PythonAssist.Text.Lines

set_option autoImplicit false

namespace PythonAssist.Lines

def Plain (text : List Char) : Prop := ∀ c ∈ text, isTerminator c = false

inductive Ending : List Char → Prop
  | newline : Ending ['\n']
  | both : Ending ['\r', '\n']
  | lone : Ending ['\r']

def Closed (line : List Char) : Prop :=
  ∃ content ending, Plain content ∧ Ending ending ∧ line = content ++ ending

-- A lone '\r' would swallow a '\n' behind it.
def Apart (line next : List Char) : Prop :=
  line.getLast? = some '\r' → next.head? ≠ some '\n'

instance (line next : List Char) : Decidable (Apart line next) :=
  inferInstanceAs (Decidable (_ → _))

inductive WellFormed : List (List Char) → Prop
  | last (line : List Char) : Plain line → WellFormed [line]
  | closed (line next : List Char) (rest : List (List Char)) :
      Closed line → Apart line next → WellFormed (next :: rest) →
      WellFormed (line :: next :: rest)

theorem plain_nil : Plain [] := by simp [Plain]

theorem plain_cons {c : Char} {text : List Char} :
    Plain (c :: text) ↔ isTerminator c = false ∧ Plain text := by
  simp [Plain]

theorem isTerminator_eq_false {c : Char} : isTerminator c = false ↔ c ≠ '\n' ∧ c ≠ '\r' := by
  simp [isTerminator]

theorem split_cons_plain {c : Char} (plain : isTerminator c = false) (text : List Char) :
    split (c :: text) = attach c (split text) := by
  obtain ⟨notNewline, notReturn⟩ := isTerminator_eq_false.mp plain
  rw [split] <;> simp_all

theorem split_lone_cons {text : List Char} (apart : text.head? ≠ some '\n') :
    split ('\r' :: text) = ['\r'] :: split text := by
  rw [split]
  rintro rest rfl
  simp at apart

theorem split_ne_nil (text : List Char) : split text ≠ [] := by
  fun_induction split text with
  | case5 c rest _ _ _ ih => cases h : split rest <;> simp [attach]
  | _ => simp

theorem exists_split_eq (text : List Char) : ∃ line rest, split text = line :: rest :=
  List.exists_cons_of_ne_nil (split_ne_nil text)

theorem split_append_plain {content text line : List Char} {rest : List (List Char)}
    (plain : Plain content) (found : split text = line :: rest) :
    split (content ++ text) = (content ++ line) :: rest := by
  induction content with
  | nil => simpa using found
  | cons c content ih =>
    obtain ⟨first, others⟩ := plain_cons.mp plain
    rw [List.cons_append, split_cons_plain first, ih others]
    rfl

theorem split_plain {content : List Char} (plain : Plain content) : split content = [content] := by
  simpa using split_append_plain plain (show split [] = [[]] from rfl)

theorem split_closed_append {line text : List Char} (closed : Closed line)
    (apart : Apart line text) : split (line ++ text) = line :: split text := by
  obtain ⟨content, ending, plain, ends, rfl⟩ := closed
  rw [List.append_assoc]
  apply split_append_plain plain
  cases ends with
  | newline => rfl
  | both => rfl
  | lone => exact split_lone_cons (apart (by simp))

theorem Closed.ne_nil {line : List Char} (closed : Closed line) : line ≠ [] := by
  obtain ⟨content, ending, -, ends, rfl⟩ := closed
  cases ends <;> simp

theorem WellFormed.head?_flatten {line : List Char} {rest : List (List Char)}
    (shape : WellFormed (line :: rest)) : (line :: rest).flatten.head? = line.head? := by
  cases shape with
  | last => simp
  | closed _ next rest closed =>
    cases line with
    | nil => exact absurd rfl closed.ne_nil
    | cons c line => rfl

theorem WellFormed.split_eq {lines : List (List Char)} (shape : WellFormed lines) :
    split lines.flatten = lines := by
  induction shape with
  | last line plain => simpa using split_plain plain
  | closed line next rest closed apart shape ih =>
    have follows : Apart line (next :: rest).flatten := by
      intro ends
      rw [shape.head?_flatten]
      exact apart ends
    rw [List.flatten_cons, split_closed_append closed follows, ih]

theorem WellFormed.attach {c : Char} {line : List Char} {rest : List (List Char)}
    (plain : isTerminator c = false) (shape : WellFormed (line :: rest)) :
    WellFormed ((c :: line) :: rest) := by
  cases shape with
  | last _ all => exact .last _ (plain_cons.mpr ⟨plain, all⟩)
  | closed _ next rest closed apart shape =>
    refine .closed _ _ _ ?_ ?_ shape
    next =>
      obtain ⟨content, ending, all, ends, rfl⟩ := closed
      exact ⟨c :: content, ending, plain_cons.mpr ⟨plain, all⟩, ends, rfl⟩
    next =>
      intro ends
      apply apart
      rwa [List.getLast?_cons_of_ne_nil closed.ne_nil] at ends

theorem WellFormed.cons_split {ending text : List Char} (ends : Ending ending)
    (apart : Apart ending text) (shape : WellFormed (split text)) :
    WellFormed (ending :: split text) := by
  obtain ⟨line, rest, found⟩ := exists_split_eq text
  have whole := split_flatten text
  rw [found] at shape whole ⊢
  refine .closed _ _ _ ⟨[], ending, plain_nil, ends, rfl⟩ ?_ shape
  intro lone
  rw [← shape.head?_flatten, whole]
  exact apart lone

theorem split_wellFormed (text : List Char) : WellFormed (split text) := by
  fun_induction split text with
  | case1 => exact .last _ plain_nil
  | case2 rest ih => exact .cons_split .newline (by simp [Apart]) ih
  | case3 rest ih => exact .cons_split .both (by simp [Apart]) ih
  | case4 rest notBoth ih =>
    refine .cons_split .lone ?_ ih
    intro _ starts
    obtain ⟨others, rfl⟩ := List.head?_eq_some_iff.mp starts
    exact notBoth others rfl
  | case5 c rest notNewline _ notReturn ih =>
    obtain ⟨line, others, found⟩ := exists_split_eq rest
    rw [found] at ih ⊢
    exact ih.attach (isTerminator_eq_false.mpr ⟨notNewline, notReturn⟩)

theorem WellFormed.suffix {before lines : List (List Char)} (shape : WellFormed (before ++ lines))
    (some : lines ≠ []) : WellFormed lines := by
  induction before with
  | nil => exact shape
  | cons line before ih =>
    apply ih
    rw [List.cons_append] at shape
    cases h : before ++ lines with
    | nil => exact absurd (List.append_eq_nil_iff.mp h).2 some
    | cons next rest =>
      rw [h] at shape
      cases shape
      assumption

theorem WellFormed.join {before after other : List (List Char)} {line : List Char}
    {rest : List (List Char)} (first : WellFormed (before ++ line :: rest))
    (second : WellFormed (other ++ line :: after)) : WellFormed (before ++ line :: after) := by
  induction before with
  | nil => exact second.suffix (by simp)
  | cons head before ih =>
    cases before with
    | nil =>
      cases first with
      | closed _ _ _ closed apart shape => exact .closed _ _ _ closed apart (ih shape)
    | cons next before =>
      cases first with
      | closed _ _ _ closed apart shape => exact .closed _ _ _ closed apart (ih shape)

end PythonAssist.Lines

namespace PythonAssist

theorem splitLines_toList (text : String) :
    (splitLines text).map String.toList = Lines.split text.toList := by
  simp [splitLines, Function.comp_def]

end PythonAssist
