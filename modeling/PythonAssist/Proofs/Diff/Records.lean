import PythonAssist.Proofs.Diff.Rearrangement

set_option autoImplicit false

namespace PythonAssist

def LineChange.old : LineChange → List String
  | .unchanged line => [line]
  | .removed line => [line]
  | .inserted _ => []

def LineChange.new : LineChange → List String
  | .unchanged line => [line]
  | .removed _ => []
  | .inserted line => [line]

namespace LineChange

def oldLines (changes : List LineChange) : List String := changes.flatMap old

def newLines (changes : List LineChange) : List String := changes.flatMap new

def RemovedFirst : Bool → List LineChange → Prop
  | _, [] => True
  | _, .unchanged _ :: rest => RemovedFirst false rest
  | added, .removed _ :: rest => added = false ∧ RemovedFirst false rest
  | _, .inserted _ :: rest => RemovedFirst true rest

theorem oldLines_cons (change : LineChange) (changes : List LineChange) :
    oldLines (change :: changes) = change.old ++ oldLines changes := rfl

theorem newLines_cons (change : LineChange) (changes : List LineChange) :
    newLines (change :: changes) = change.new ++ newLines changes := rfl

theorem oldLines_append (first second : List LineChange) :
    oldLines (first ++ second) = oldLines first ++ oldLines second := by
  simp [oldLines]

theorem newLines_append (first second : List LineChange) :
    newLines (first ++ second) = newLines first ++ newLines second := by
  simp [newLines]

theorem oldLines_inserted (lines : List String) : oldLines (lines.map .inserted) = [] := by
  simp [oldLines, old, List.flatMap_map]

theorem newLines_inserted (lines : List String) : newLines (lines.map .inserted) = lines := by
  simp [newLines, new, List.flatMap_map]

theorem oldLines_removed (lines : List String) : oldLines (lines.map .removed) = lines := by
  simp [oldLines, old, List.flatMap_map]

theorem newLines_removed (lines : List String) : newLines (lines.map .removed) = [] := by
  simp [newLines, new, List.flatMap_map]

theorem oldLines_unchanged (lines : List String) : oldLines (lines.map .unchanged) = lines := by
  simp [oldLines, old, List.flatMap_map]

theorem newLines_unchanged (lines : List String) : newLines (lines.map .unchanged) = lines := by
  simp [newLines, new, List.flatMap_map]

theorem RemovedFirst.removed {lines : List String} {rest : List LineChange}
    (ordered : RemovedFirst false rest) : RemovedFirst false (lines.map .removed ++ rest) := by
  induction lines with
  | nil => exact ordered
  | cons line lines ih => exact ⟨rfl, ih⟩

theorem RemovedFirst.unchanged {lines : List String} {rest : List LineChange} (some : lines ≠ [])
    (added : Bool) (ordered : RemovedFirst false rest) :
    RemovedFirst added (lines.map .unchanged ++ rest) := by
  induction lines generalizing added with
  | nil => exact absurd rfl some
  | cons line lines ih =>
    cases lines with
    | nil => exact ordered
    | cons next lines => exact ih (by simp) false

theorem RemovedFirst.inserted {lines : List String} {rest : List LineChange} (added : Bool)
    (ordered : ∀ added, RemovedFirst added rest) :
    RemovedFirst added (lines.map .inserted ++ rest) := by
  induction lines generalizing added with
  | nil => exact ordered added
  | cons line lines ih => exact ih true

end LineChange

namespace Diff

open LineChange

theorem records_oldLines (waiting : List String) (script : List (Block String)) :
    oldLines (records waiting script) = oldSide script := by
  fun_induction records waiting script with
  | case1 waiting => exact oldLines_inserted waiting
  | case2 waiting lines rest ih =>
    simp [oldLines_append, oldLines_inserted, oldLines_unchanged, ih, oldSide_cons, Block.old]
  | case3 waiting lines rest ih =>
    simp [oldLines_append, oldLines_removed, ih, oldSide_cons, Block.old]
  | case4 waiting lines rest ih => simp [ih, oldSide_cons, Block.old]
  | case5 waiting removed inserted rest ih =>
    simp [oldLines_append, oldLines_removed, ih, oldSide_cons, Block.old]

theorem records_newLines (waiting : List String) (script : List (Block String)) :
    newLines (records waiting script) = waiting ++ newSide script := by
  fun_induction records waiting script with
  | case1 waiting => simp [newLines_inserted, newSide_nil]
  | case2 waiting lines rest ih =>
    simp [newLines_append, newLines_inserted, newLines_unchanged, ih, newSide_cons, Block.new]
  | case3 waiting lines rest ih =>
    simp [newLines_append, newLines_removed, ih, newSide_cons, Block.new]
  | case4 waiting lines rest ih => simp [ih, newSide_cons, Block.new]
  | case5 waiting removed inserted rest ih =>
    simp [newLines_append, newLines_removed, ih, newSide_cons, Block.new]

theorem records_removedFirst {script : List (Block String)} (solid : Solid script)
    (waiting : List String) : RemovedFirst false (records waiting script) := by
  fun_induction records waiting script with
  | case1 waiting =>
    rw [← List.append_nil (waiting.map _)]
    exact .inserted false fun _ => trivial
  | case2 waiting lines rest ih =>
    obtain ⟨some, others⟩ := solid_equal_cons.mp solid
    rw [List.append_assoc]
    exact .inserted false fun added => .unchanged some added (ih others)
  | case3 waiting lines rest ih =>
    exact .removed (ih fun lines member => solid lines (by simp [member]))
  | case4 waiting lines rest ih => exact ih (solid_insert_cons.mp solid)
  | case5 waiting removed inserted rest ih =>
    exact .removed (ih fun lines member => solid lines (by simp [member]))

theorem records_equal {script : List (Block String)} (equal : ∀ block ∈ script, IsEqual block) :
    records [] script = (oldSide script).map .unchanged := by
  induction script with
  | nil => rfl
  | cons block rest ih =>
    obtain ⟨first, others⟩ := List.forall_mem_cons.mp equal
    cases block with
    | equal lines => simp [records, ih others, oldSide_cons, Block.old]
    | delete => exact first.elim
    | insert => exact first.elim
    | replace => exact first.elim

end Diff

end PythonAssist
