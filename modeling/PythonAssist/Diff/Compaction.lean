import PythonAssist.Diff.Script

set_option autoImplicit false

namespace PythonAssist.Diff

variable {A : Type} [DecidableEq A]

-- An inserted block that ends as the equal block before it ends may stand further up. The lists
-- are given backwards; the result is what stays equal before, the block, and what follows it.
def slideUp : List A → List A → List A → List A × List A × List A
  | a :: before, b :: inserted, after =>
    if a = b then slideUp before (inserted ++ [a]) (a :: after)
    else (a :: before, b :: inserted, after)
  | before, inserted, after => (before, inserted, after)

-- The same downwards, with the lists in reading order and what it passes given backwards.
def slideDown : List A → List A → List A → List A × List A × List A
  | inserted, [], passed => (inserted, [], passed)
  | [], after, passed => ([], after, passed)
  | b :: inserted, a :: after, passed =>
    if a = b then slideDown (inserted ++ [a]) after (a :: passed)
    else (b :: inserted, a :: after, passed)
termination_by _ after _ => after.length

def pushEqual (lines : List A) : List (Block A) → List (Block A)
  | .equal next :: rest => .equal (lines ++ next) :: rest
  | rest => if lines.isEmpty then rest else .equal lines :: rest

def pushEqualBefore (lines : List A) : List (Block A) → List (Block A)
  | .equal last :: rest => .equal (last ++ lines) :: rest
  | rest => if lines.isEmpty then rest else .equal lines :: rest

structure Focus (A : Type) where
  before : List (Block A)
  change : Block A
  after : List (Block A)

def moveUp : List (Block A) → Block A → List (Block A) → Focus A
  | .equal lines :: before, .insert inserted, after =>
    let (left, moved, passed) := slideUp lines.reverse inserted.reverse []
    let after := if passed.isEmpty then after else pushEqual passed after
    if left.isEmpty then moveUp before (.insert moved.reverse) after
    else { before := .equal left.reverse :: before, change := .insert moved.reverse, after }
  | .delete lines :: before, .insert inserted, after =>
    moveUp before (.insert inserted) (.delete lines :: after)
  | .insert lines :: before, .insert inserted, after =>
    moveUp before (.insert (lines ++ inserted)) after
  | .insert lines :: before, .delete removed, after =>
    moveUp before (.delete removed) (.insert lines :: after)
  | .delete lines :: before, .delete removed, after =>
    moveUp before (.delete (lines ++ removed)) after
  | before, change, after => { before, change, after }

def moveDown : List (Block A) → List (Block A) → Block A → Focus A
  | .equal lines :: after, before, .insert inserted =>
    let (moved, left, passed) := slideDown inserted lines []
    let before := if passed.isEmpty then before else pushEqualBefore passed.reverse before
    if left.isEmpty then moveDown after before (.insert moved)
    else { before, change := .insert moved, after := .equal left :: after }
  | .delete lines :: after, before, .insert inserted =>
    moveDown after (.delete lines :: before) (.insert inserted)
  | .insert lines :: after, before, .insert inserted =>
    moveDown after before (.insert (inserted ++ lines))
  | .insert lines :: after, before, .delete removed =>
    moveDown after (.insert lines :: before) (.delete removed)
  | .delete lines :: after, before, .delete removed =>
    moveDown after before (.delete (removed ++ lines))
  | after, before, change => { before, change, after }

def settle (before : List (Block A)) (change : Block A) (after : List (Block A)) : Focus A :=
  let up := moveUp before change after
  moveDown up.after up.before up.change

def compactWhere (chosen : Block A → Bool) :
    Nat → List (Block A) → List (Block A) → List (Block A)
  | 0, before, after => before.reverse ++ after
  | _, before, [] => before.reverse
  | fuel + 1, before, block :: after =>
    if chosen block then
      let focus := settle before block after
      compactWhere chosen fuel (focus.change :: focus.before) focus.after
    else compactWhere chosen fuel (block :: before) after

def Block.isDelete : Block A → Bool
  | .delete _ => true
  | _ => false

def Block.isInsert : Block A → Bool
  | .insert _ => true
  | _ => false

def weight (script : List (Block A)) : Nat :=
  (oldSide script).length + (newSide script).length + script.length + 1

def compact (script : List (Block A)) : List (Block A) :=
  let script := compactWhere Block.isDelete (weight script) [] script
  compactWhere Block.isInsert (weight script) [] script

structure Run (A : Type) where
  removed : List A
  inserted : List A

def Run.block (run : Run A) : List (Block A) :=
  match run.removed, run.inserted with
  | [], [] => []
  | removed, [] => [.delete removed]
  | [], inserted => [.insert inserted]
  | removed, inserted => [.replace removed inserted]

def joinRuns : Run A → List (Block A) → List (Block A)
  | run, [] => run.block
  | run, .equal lines :: rest => run.block ++ .equal lines :: joinRuns ⟨[], []⟩ rest
  | run, .delete lines :: rest => joinRuns { run with removed := run.removed ++ lines } rest
  | run, .insert lines :: rest => joinRuns { run with inserted := run.inserted ++ lines } rest
  | run, .replace removed inserted :: rest =>
    joinRuns ⟨run.removed ++ removed, run.inserted ++ inserted⟩ rest

end PythonAssist.Diff
