import PythonAssist.Proofs.Diff.Runs

set_option autoImplicit false

namespace PythonAssist

namespace Diff

inductive Operation where
  | equal (old new length : Nat)
  | delete (old length new : Nat)
  | insert (old new length : Nat)
  | replace (old oldLength new newLength : Nat)
  deriving DecidableEq, Repr

variable {A : Type}

def slice (lines : List A) (start length : Nat) : List A := (lines.drop start).take length

def Operation.block (old new : List A) : Operation → Block A
  | .equal start _ length => .equal (slice old start length)
  | .delete start length _ => .delete (slice old start length)
  | .insert _ start length => .insert (slice new start length)
  | .replace start length newStart newLength =>
    .replace (slice old start length) (slice new newStart newLength)

inductive Contiguous (old new : List A) : Nat → Nat → List Operation → Prop
  | done : Contiguous old new old.length new.length []
  | equal (i j length : Nat) (rest : List Operation) :
      slice old i length = slice new j length →
      Contiguous old new (i + length) (j + length) rest →
      Contiguous old new i j (.equal i j length :: rest)
  | delete (i j length : Nat) (rest : List Operation) :
      Contiguous old new (i + length) j rest → Contiguous old new i j (.delete i length j :: rest)
  | insert (i j length : Nat) (rest : List Operation) :
      Contiguous old new i (j + length) rest → Contiguous old new i j (.insert i j length :: rest)
  | replace (i oldLength j newLength : Nat) (rest : List Operation) :
      Contiguous old new (i + oldLength) (j + newLength) rest →
      Contiguous old new i j (.replace i oldLength j newLength :: rest)

theorem slice_append_drop (lines : List A) (start length : Nat) :
    slice lines start length ++ lines.drop (start + length) = lines.drop start := by
  rw [slice, ← List.drop_drop, List.take_append_drop]

namespace Contiguous

variable {old new : List A} {i j : Nat} {operations : List Operation}

theorem within (contiguous : Contiguous old new i j operations) :
    i ≤ old.length ∧ j ≤ new.length := by
  induction contiguous with
  | done => exact ⟨Nat.le_refl _, Nat.le_refl _⟩
  | equal => omega
  | delete => omega
  | insert => omega
  | replace => omega

theorem valid (contiguous : Contiguous old new i j operations) :
    Valid (operations.map (Operation.block old new)) (old.drop i) (new.drop j) := by
  induction contiguous with
  | done => simp [Valid, oldSide, newSide]
  | equal i j length rest same _ ih =>
    rw [List.map_cons, Valid, oldSide_cons, newSide_cons, ih.1, ih.2]
    refine ⟨slice_append_drop old i length, ?_⟩
    rw [Operation.block, Block.new, same, slice_append_drop]
  | delete i j length rest _ ih =>
    rw [List.map_cons, Valid, oldSide_cons, newSide_cons, ih.1, ih.2]
    exact ⟨slice_append_drop old i length, rfl⟩
  | insert i j length rest _ ih =>
    rw [List.map_cons, Valid, oldSide_cons, newSide_cons, ih.1, ih.2]
    exact ⟨rfl, slice_append_drop new j length⟩
  | replace i oldLength j newLength rest _ ih =>
    rw [List.map_cons, Valid, oldSide_cons, newSide_cons, ih.1, ih.2]
    exact ⟨slice_append_drop old i oldLength, slice_append_drop new j newLength⟩

-- The operations stay within both lists, so an equal one that pairs lines has some.
theorem solid (contiguous : Contiguous old new i j operations)
    (pairs : ∀ start other, .equal start other 0 ∉ operations) :
    Solid (operations.map (Operation.block old new)) := by
  induction contiguous with
  | done => exact solid_nil
  | equal i j length rest _ contiguous ih =>
    obtain ⟨inside, -⟩ := contiguous.within
    have some : length ≠ 0 := by
      rintro rfl
      exact pairs i j List.mem_cons_self
    have others := ih fun start other member => pairs start other (List.mem_cons_of_mem _ member)
    refine solid_equal_cons.mpr ⟨?_, others⟩
    simp only [slice, ne_eq, List.take_eq_nil_iff, List.drop_eq_nil_iff]
    omega
  | delete i length j rest _ ih =>
    simpa [Solid, Operation.block] using
      ih fun start other member => pairs start other (List.mem_cons_of_mem _ member)
  | insert i j length rest _ ih =>
    simpa [Solid, Operation.block] using
      ih fun start other member => pairs start other (List.mem_cons_of_mem _ member)
  | replace i oldLength j newLength rest _ ih =>
    simpa [Solid, Operation.block] using
      ih fun start other member => pairs start other (List.mem_cons_of_mem _ member)

end Contiguous

structure Comparison (old new : List A) (operations : List Operation) : Prop where
  contiguous : Contiguous old new 0 0 operations
  pairs : ∀ i j, .equal i j 0 ∉ operations

structure Classifies (changes : List LineChange) (old new : List String) : Prop where
  old : LineChange.oldLines changes = old
  new : LineChange.newLines changes = new
  ordered : ∀ run, LineChange.Run.Maximal run changes → ∃ gone come : List String,
    run.body = gone.map LineChange.removed ++ come.map LineChange.inserted

theorem records_classify {script : List (Block String)} {old new : List String}
    (described : Describes script old new) : Classifies (records [] script) old new where
  old := by rw [records_oldLines, described.valid.1]
  new := by rw [records_newLines, described.valid.2, List.nil_append]
  ordered _ maximal := (records_removedFirst described.solid []).run_eq maximal

def classify (old new : List String) (operations : List Operation) : List LineChange :=
  records [] (operations.map (Operation.block old new))

end Diff

open Diff

-- An equal operation without lines would end a run of changes where nothing stands between them,
-- but no line would be lost or moved by it.
theorem operations_classify_lines (old new : List String) :
    (∀ operations, Comparison old new operations →
      Classifies (classify old new operations) old new) ∧
    (∀ operations, Contiguous old new 0 0 operations →
      LineChange.oldLines (classify old new operations) = old ∧
        LineChange.newLines (classify old new operations) = new) ∧
    Classifies (diffLines old new) old new := by
  refine ⟨fun operations compared => ?_, fun operations contiguous => ⟨?_, ?_⟩, ?_⟩
  · have contiguous := compared.contiguous
    exact records_classify ⟨contiguous.valid, contiguous.solid compared.pairs⟩
  · rw [classify, records_oldLines, contiguous.valid.1, List.drop_zero]
  · rw [classify, records_newLines, contiguous.valid.2, List.drop_zero, List.nil_append]
  · exact records_classify (script_describes old new)

theorem scattered_operations_classify_lines :
    let old := ["a", "b", "c", "d"]
    let new := ["x", "y", "d"]
    let operations : List Operation :=
      [.insert 0 0 1, .replace 0 1 1 1, .delete 1 2 2, .equal 3 2 1]
    Comparison old new operations ∧ Classifies (classify old new operations) old new := by
  intro old new operations
  have contiguous : Contiguous old new 0 0 operations :=
    .insert _ _ _ _ (.replace _ _ _ _ _ (.delete _ _ _ _ (.equal _ _ _ _ rfl .done)))
  have compared : Comparison old new operations := ⟨contiguous, by simp [operations]⟩
  exact ⟨compared, (operations_classify_lines old new).1 operations compared⟩

end PythonAssist
