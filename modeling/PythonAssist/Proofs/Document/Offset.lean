import Mathlib.Data.List.DropRight
import PythonAssist.Document
import PythonAssist.Proofs.Text.LineShape

set_option autoImplicit false

namespace PythonAssist

namespace Lines

def terminators : List Char → Nat
  | [] => 0
  | '\r' :: '\n' :: rest => terminators rest + 1
  | c :: rest => terminators rest + if isTerminator c then 1 else 0

def unfinished (text : List Char) : List Char := text.rtakeWhile fun c => !isTerminator c

theorem plain_iff_all (text : List Char) : Plain text ↔ text.all (fun c => !isTerminator c) := by
  simp [Plain]

theorem unfinished_plain {text : List Char} (plain : Plain text) : unfinished text = text := by
  apply List.rtakeWhile_eq_self_iff.mpr
  simpa [Plain] using plain

theorem unfinished_cons_of_not_plain {c : Char} {text : List Char} (closed : ¬ Plain text) :
    unfinished (c :: text) = unfinished text := by
  have stops : (text.reverse.takeWhile fun c => !isTerminator c).length ≠ text.reverse.length := by
    intro all
    apply closed
    rw [plain_iff_all, ← List.all_reverse]
    have whole := (List.takeWhile_prefix fun c => !isTerminator c).eq_of_length all
    rw [← whole]
    exact List.all_takeWhile
  simp only [unfinished, List.rtakeWhile, List.reverse_cons]
  rw [List.takeWhile_append, if_neg stops]

theorem unfinished_cons_terminator {c : Char} {text : List Char} (ends : isTerminator c = true) :
    unfinished (c :: text) = unfinished text := by
  by_cases plain : Plain text
  next =>
    have all : ∀ d ∈ text.reverse, (!isTerminator d) = true := by simpa [Plain] using plain
    rw [unfinished_plain plain]
    simp [unfinished, List.rtakeWhile, List.takeWhile_append_of_pos all, ends]
  next => exact unfinished_cons_of_not_plain plain

theorem terminators_eq_zero {text : List Char} : terminators text = 0 ↔ Plain text := by
  fun_induction terminators text with
  | case1 => simp [plain_nil]
  | case2 rest => simp [Plain, isTerminator]
  | case3 c rest _ ih => cases h : isTerminator c <;> simp [plain_cons, ih, h]

theorem content_cons_plain {c : Char} {line : List Char} (plain : isTerminator c = false) :
    content (c :: line) = c :: content line := by
  simp only [content, List.reverse_cons, List.dropWhile_append]
  split
  next empty => simp [plain, List.isEmpty_iff.mp empty]
  next => simp

end Lines

namespace Units

theorem width_pos (c : Char) : 0 < width c := by
  unfold width
  split <;> decide

theorem take_cons (c : Char) (column : Nat) (text : List Char) :
    take (width c + column) (c :: text) = c :: take column text := by
  obtain ⟨rest, total⟩ : ∃ rest, width c + column = rest + 1 :=
    ⟨width c + column - 1, by have := width_pos c; omega⟩
  rw [total, take, ← total, Nat.add_sub_cancel_left]

end Units

namespace Document

open Lines

def place (lines : List (List Char)) (line column : Nat) : Nat :=
  (lines.take line).flatten.length +
    match lines[line]? with
    | none => 0
    | some found => (Units.take column (content found)).length

theorem offset_eq_place (text : List Char) (position : Position) :
    offset text position = place (split text) position.line.toNat position.character.toNat := by
  cases found : (split text)[position.line.toNat]? with
  | none =>
    have past := List.getElem?_eq_none_iff.mp found
    simp only [offset, place, found, List.take_of_length_le past, split_flatten, Nat.add_zero]
  | some line => simp only [offset, place, found]

theorem place_cons_succ (first : List Char) (rest : List (List Char)) (line column : Nat) :
    place (first :: rest) (line + 1) column = first.length + place rest line column := by
  simp [place, Nat.add_assoc]

theorem place_zero (lines : List (List Char)) (line : Nat) :
    place lines line 0 = (lines.take line).flatten.length := by
  unfold place
  cases lines[line]? <;> simp [Units.take]

theorem place_attach {c : Char} {text : List Char} (plain : isTerminator c = false) (column : Nat) :
    place (split (c :: text)) 0 (Units.width c + column) = place (split text) 0 column + 1 := by
  obtain ⟨line, rest, found⟩ := exists_split_eq text
  simp [split_cons_plain plain, found, attach, place, content_cons_plain plain, Units.take_cons]

theorem place_attach_succ {c : Char} {text : List Char} (plain : isTerminator c = false)
    (line column : Nat) :
    place (split (c :: text)) (line + 1) column = place (split text) (line + 1) column + 1 := by
  obtain ⟨first, rest, found⟩ := exists_split_eq text
  simp only [split_cons_plain plain, found, attach, place_cons_succ, List.length_cons]
  omega

theorem place_split_append (before after : List Char) (apart : Apart before after) :
    place (split (before ++ after)) (terminators before) (Units.count (unfinished before)) =
      before.length := by
  fun_induction terminators before with
  | case1 => simp [place_zero, unfinished, Units.count]
  | case2 rest ih =>
    have rest_apart : Apart rest after := by
      intro ends
      apply apart
      cases rest <;> simp_all
    have cut : split ('\r' :: '\n' :: rest ++ after) = ['\r', '\n'] :: split (rest ++ after) := rfl
    rw [cut, place_cons_succ, unfinished_cons_terminator rfl, unfinished_cons_terminator rfl,
      ih rest_apart]
    simp only [List.length_cons, List.length_nil]
    omega
  | case3 c rest notBoth ih =>
    have rest_apart : Apart rest after := by
      intro ends
      apply apart
      cases rest <;> simp_all
    by_cases ends : isTerminator c = true
    next =>
      have cut : split (c :: rest ++ after) = [c] :: split (rest ++ after) := by
        rcases (by simpa [isTerminator] using ends : c = '\n' ∨ c = '\r') with rfl | rfl
        next => rfl
        next =>
          apply split_lone_cons
          cases rest with
          | nil => exact apart rfl
          | cons next rest => simpa using notBoth rest rfl
      rw [cut, if_pos ends, place_cons_succ, unfinished_cons_terminator ends, ih rest_apart]
      simp [Nat.add_comm]
    next =>
      have plain : isTerminator c = false := by simpa using ends
      rw [if_neg ends, Nat.add_zero, List.cons_append]
      by_cases rest_plain : Plain rest
      next =>
        have all := plain_cons.mpr ⟨plain, rest_plain⟩
        have here := ih rest_apart
        rw [terminators_eq_zero.mpr rest_plain, unfinished_plain rest_plain] at here
        rw [terminators_eq_zero.mpr rest_plain, unfinished_plain all, Units.count,
          place_attach plain, here, List.length_cons]
      next =>
        have later : terminators rest ≠ 0 := mt terminators_eq_zero.mp rest_plain
        obtain ⟨line, counted⟩ := Nat.exists_eq_succ_of_ne_zero later
        rw [unfinished_cons_of_not_plain rest_plain]
        rw [counted] at ih ⊢
        rw [place_attach_succ plain, ih rest_apart, List.length_cons]

end Document

end PythonAssist
