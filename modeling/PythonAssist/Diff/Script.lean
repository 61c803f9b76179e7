set_option autoImplicit false

namespace PythonAssist.Diff

inductive Block (A : Type) where
  | equal (lines : List A)
  | delete (lines : List A)
  | insert (lines : List A)
  | replace (removed inserted : List A)
  deriving DecidableEq, Repr

variable {A : Type}

def Block.old : Block A → List A
  | .equal lines => lines
  | .delete lines => lines
  | .insert _ => []
  | .replace removed _ => removed

def Block.new : Block A → List A
  | .equal lines => lines
  | .delete _ => []
  | .insert lines => lines
  | .replace _ inserted => inserted

def oldSide (script : List (Block A)) : List A := script.flatMap Block.old

def newSide (script : List (Block A)) : List A := script.flatMap Block.new

def Valid (script : List (Block A)) (old new : List A) : Prop :=
  oldSide script = old ∧ newSide script = new

def IsEqual : Block A → Prop
  | .equal _ => True
  | _ => False

end PythonAssist.Diff
