import Mathlib.Data.List.Basic
import PythonAssist.Diff

set_option autoImplicit false

namespace PythonAssist.Diff

variable {A : Type}

-- An equal block that covers nothing would end a run of changes.
def Solid (script : List (Block A)) : Prop := ∀ lines, Block.equal lines ∈ script → lines ≠ []

structure Describes (script : List (Block A)) (old new : List A) : Prop where
  valid : Valid script old new
  solid : Solid script

theorem oldSide_nil : oldSide ([] : List (Block A)) = [] := rfl

theorem newSide_nil : newSide ([] : List (Block A)) = [] := rfl

theorem oldSide_append (first second : List (Block A)) :
    oldSide (first ++ second) = oldSide first ++ oldSide second := by
  simp [oldSide]

theorem newSide_append (first second : List (Block A)) :
    newSide (first ++ second) = newSide first ++ newSide second := by
  simp [newSide]

theorem oldSide_cons (block : Block A) (script : List (Block A)) :
    oldSide (block :: script) = block.old ++ oldSide script := rfl

theorem newSide_cons (block : Block A) (script : List (Block A)) :
    newSide (block :: script) = block.new ++ newSide script := rfl

namespace Describes

variable {first second script : List (Block A)} {old new old' new' : List A}

theorem nil : Describes ([] : List (Block A)) [] [] :=
  ⟨⟨rfl, rfl⟩, by simp [Solid]⟩

theorem append (one : Describes first old new) (other : Describes second old' new') :
    Describes (first ++ second) (old ++ old') (new ++ new') := by
  refine ⟨⟨?_, ?_⟩, ?_⟩
  · rw [oldSide_append, one.valid.1, other.valid.1]
  · rw [newSide_append, one.valid.2, other.valid.2]
  · intro lines member
    rcases List.mem_append.mp member with member | member
    · exact one.solid lines member
    · exact other.solid lines member

theorem cons {block : Block A} (solid : ∀ lines, block = .equal lines → lines ≠ [])
    (rest : Describes script old new) :
    Describes (block :: script) (block.old ++ old) (block.new ++ new) := by
  refine ⟨⟨?_, ?_⟩, ?_⟩
  · rw [oldSide_cons, rest.valid.1]
  · rw [newSide_cons, rest.valid.2]
  · intro lines member
    rcases List.mem_cons.mp member with same | member
    · exact solid lines same.symm
    · exact rest.solid lines member

theorem delete (lines : List A) : Describes [.delete lines] lines [] := by
  refine ⟨⟨?_, rfl⟩, by simp [Solid]⟩
  simp [oldSide, Block.old]

theorem insert (lines : List A) : Describes [.insert lines] [] lines := by
  refine ⟨⟨rfl, ?_⟩, by simp [Solid]⟩
  simp [newSide, Block.new]

end Describes

section Search

variable [DecidableEq A]

theorem commonFront_append (old new : List A) :
    (commonFront old new).1 ++ (commonFront old new).2.1 = old ∧
      (commonFront old new).1 ++ (commonFront old new).2.2 = new := by
  fun_induction commonFront old new with
  | case1 a old new shared old' new' found ih => simpa [found] using ih
  | case2 => simp
  | case3 => simp

theorem commonBack_append (old new : List A) :
    (commonBack old new).2.1 ++ (commonBack old new).1 = old ∧
      (commonBack old new).2.2 ++ (commonBack old new).1 = new := by
  have front := commonFront_append old.reverse new.reverse
  constructor
  · simpa [commonBack] using congrArg List.reverse front.1
  · simpa [commonBack] using congrArg List.reverse front.2

theorem commonFront_self (lines : List A) : commonFront lines lines = (lines, [], []) := by
  induction lines with
  | nil => rfl
  | cons line rest ih => simp [commonFront, ih]

omit [DecidableEq A] in
theorem keep_describes {script : List (Block A)} {old new : List A}
    (described : Describes script old new) (lines : List A) :
    Describes (keep lines script) (lines ++ old) (lines ++ new) := by
  unfold keep
  cases lines with
  | nil => exact described
  | cons line rest => exact described.cons (by simp)

theorem search_describes (fuel : Nat) (old new : List A) :
    Describes (search fuel old new) old new := by
  induction fuel generalizing old new with
  | zero => simpa [search] using (Describes.delete old).append (.insert new)
  | succ fuel ih =>
    have front := commonFront_append old new
    rcases found : commonFront old new with ⟨shared, old₁, new₁⟩
    have back := commonBack_append old₁ new₁
    rcases foundBack : commonBack old₁ new₁ with ⟨ending, old₂, new₂⟩
    simp only [found] at front
    simp only [foundBack] at back
    simp only [search, found, foundBack]
    rw [← front.1, ← front.2, ← back.1, ← back.2]
    apply keep_describes
    refine .append ?_ (by simpa using keep_describes .nil ending)
    split
    next => exact .nil
    next => exact .delete old₂
    next => exact .insert new₂
    next =>
      split
      next x y _ =>
        have halves := (ih (old₂.take x) (new₂.take y)).append (ih (old₂.drop x) (new₂.drop y))
        simpa only [List.take_append_drop] using halves
      next => simpa using (Describes.delete old₂).append (.insert new₂)

theorem search_self (fuel : Nat) (lines : List A) :
    search (fuel + 1) lines lines = keep lines [] := by
  simp [search, commonFront_self, commonBack, keep]

end Search

end PythonAssist.Diff
