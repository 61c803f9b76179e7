import Mathlib.Data.List.SplitBy
import PythonAssist.TextEngine.Words

set_option autoImplicit false

namespace PythonAssist

namespace TextEngine

def staysOnLine (c _next : Char) : Bool := c != '\n'

def Fed (lines : List (List Char)) : Prop :=
  lines.IsChain fun line _ => line.getLast? = some '\n'

def BeginsLine (front : List Char) : Prop := ∀ c ∈ front.getLast?, c = '\n'

variable {code front start line : List Char} {before after : List (List Char)}

theorem linesWithEnds_flatten (code : List Char) : (linesWithEnds code).flatten = code := by
  fun_induction linesWithEnds code with
  | case1 => rfl
  | case2 rest ih => rw [List.flatten_cons, ih, List.singleton_append]
  | case3 c different => rfl
  | case4 c different next more nothing ih =>
    rw [nothing] at ih
    cases ih
  | case5 c different next more first others split ih =>
    rw [split] at ih
    rw [List.flatten_cons, List.cons_append, ← List.flatten_cons, ih]

theorem linesWithEnds_eq_splitBy (code : List Char) :
    linesWithEnds code = code.splitBy staysOnLine := by
  symm
  refine List.splitBy_eq_iff.mpr ⟨(linesWithEnds_flatten code).symm, ?_⟩
  fun_induction linesWithEnds code with
  | case1 => simp
  | case2 rest ih =>
    obtain ⟨solid, inside, chain⟩ := ih
    refine ⟨by simp [solid], List.forall_mem_cons.mpr ⟨.singleton _, inside⟩, ?_⟩
    refine List.isChain_cons.mpr ⟨fun line first => ⟨by simp, ?_, rfl⟩, chain⟩
    exact fun nothing => solid (nothing ▸ List.mem_of_head? first)
  | case3 c different => simp
  | case4 c different next more nothing ih =>
    have whole := linesWithEnds_flatten (next :: more)
    rw [nothing] at whole
    cases whole
  | case5 c different next more first others split ih =>
    rw [split] at ih
    obtain ⟨solid, inside, chain⟩ := ih
    obtain ⟨inFirst, inOthers⟩ := List.forall_mem_cons.mp inside
    obtain ⟨ends, later⟩ := List.isChain_cons.mp chain
    have stays : staysOnLine c = fun _ => true := by
      funext next
      exact bne_iff_ne.mpr different
    have others := List.not_mem_of_not_mem_cons solid
    refine ⟨List.not_mem_cons_of_ne_of_not_mem nofun others,
      List.forall_mem_cons.mpr ⟨?_, inOthers⟩, ?_⟩
    · exact List.isChain_cons.mpr ⟨fun d _ => congrFun stays d, inFirst⟩
    · refine List.isChain_cons.mpr ⟨fun line follows => ?_, later⟩
      obtain ⟨filled, begins, stops⟩ := ends line follows
      exact ⟨List.cons_ne_nil _ _, begins, by rwa [List.getLast_cons filled]⟩

theorem linesWithEnds_append (begins : BeginsLine front) (back : List Char) :
    linesWithEnds (front ++ back) = linesWithEnds front ++ linesWithEnds back := by
  simp only [linesWithEnds_eq_splitBy]
  apply List.splitBy_append
  intro c last next _
  exact bne_eq_false_iff_eq.mpr (begins c last)

theorem Fed.beginsLine (fed : Fed (before ++ line :: after)) : BeginsLine before.flatten := by
  obtain ⟨-, -, ends⟩ := List.isChain_append.mp fed
  rcases List.eq_nil_or_concat before with rfl | ⟨init, last, rfl⟩
  · exact nofun
  · have ended := ends last (by simp) line rfl
    intro c final
    rw [List.concat_eq_append, List.flatten_append, List.flatten_singleton, List.getLast?_append,
      ended, Option.some_or] at final
    exact (Option.mem_some.mp final).symm

theorem Fed.getLast?_or (fed : Fed (before ++ line :: after)) :
    line.getLast? = some '\n' ∨ after = [] := by
  obtain ⟨-, behind, -⟩ := List.isChain_append.mp fed
  cases after with
  | nil => exact .inr rfl
  | cons next others => exact .inl (List.isChain_cons_cons.mp behind).1

theorem Fed.without (fed : Fed (before ++ line :: after)) : Fed (before ++ after) := by
  obtain ⟨ahead, behind, ends⟩ := List.isChain_append.mp fed
  exact List.isChain_append.mpr ⟨ahead, behind.tail, fun last final _ _ => ends last final line rfl⟩

theorem linesWithEnds_fed (code : List Char) : Fed (linesWithEnds code) := by
  rw [linesWithEnds_eq_splitBy]
  apply (List.isChain_getLast_head_splitBy staysOnLine code).imp
  rintro line next ⟨solid, _, ends⟩
  rw [List.getLast?_eq_getLast_of_ne_nil solid, Option.some_inj]
  exact bne_eq_false_iff_eq.mp ends

theorem not_mem_dropLast_of_isChain
    (chain : line.IsChain fun c next => staysOnLine c next = true) : '\n' ∉ line.dropLast := by
  induction chain with
  | nil => simp
  | singleton => simp
  | @cons_cons c next rest stays _ ih =>
    rw [List.dropLast_cons_cons, List.mem_cons, not_or]
    exact ⟨(bne_iff_ne.mp stays).symm, ih⟩

theorem not_mem_dropLast (listed : line ∈ linesWithEnds code) :
    '\n' ∉ line.dropLast := by
  rw [linesWithEnds_eq_splitBy] at listed
  exact not_mem_dropLast_of_isChain (List.isChain_of_mem_splitBy listed)

theorem linesWithEnds_start (filled : start ≠ []) (free : '\n' ∉ start) (behind : List Char) :
    ∃ rest others, linesWithEnds (start ++ behind) = (start ++ rest) :: others := by
  have whole := linesWithEnds_flatten (start ++ behind)
  have fed := linesWithEnds_fed (start ++ behind)
  cases cut : linesWithEnds (start ++ behind) with
  | nil =>
    rw [cut, List.flatten_nil, eq_comm, List.append_eq_nil_iff] at whole
    exact absurd whole.1 filled
  | cons line others =>
    rw [cut] at whole fed
    rw [List.flatten_cons] at whole
    rcases List.append_eq_append_iff.mp whole with ⟨more, ends, later⟩ | ⟨rest, ends, -⟩
    · cases others with
      | nil =>
        obtain ⟨rfl, -⟩ := List.append_eq_nil_iff.mp later.symm
        exact ⟨[], [], by simp [ends]⟩
      | cons next others =>
        have last := (List.isChain_cons_cons.mp fed).1
        refine absurd ?_ free
        rw [ends]
        exact List.mem_append_left _ (List.mem_of_getLast? last)
    · exact ⟨rest, others, by rw [ends]⟩

theorem prefix_of_first (filled : start ≠ []) (free : '\n' ∉ start)
    (cut : linesWithEnds code = before ++ line :: after) (none : ∀ line ∈ before, ¬ start <+: line)
    {behind : List Char} (begins : BeginsLine front) (whole : code = front ++ (start ++ behind)) :
    before.flatten <+: front := by
  obtain ⟨rest, others, started⟩ := linesWithEnds_start filled free behind
  rw [whole, linesWithEnds_append begins, started] at cut
  rw [← linesWithEnds_flatten front]
  rcases List.append_eq_append_iff.mp cut with ⟨later, earlier, found⟩ | ⟨later, earlier, -⟩
  · cases later with
    | nil => simp [earlier]
    | cons first later =>
      cases found
      have listed : start ++ rest ∈ before := by simp [earlier]
      exact absurd (List.prefix_append _ _) (none _ listed)
  · rw [earlier, List.flatten_append]
    exact List.prefix_append _ _

end TextEngine

end PythonAssist
