import PythonAssist.Diff.Search
import PythonAssist.Diff.Compaction

set_option autoImplicit false

namespace PythonAssist

inductive LineChange where
  | unchanged (line : String)
  | removed (line : String)
  | inserted (line : String)
  deriving DecidableEq, Repr

namespace Diff

def script {A : Type} [DecidableEq A] (old new : List A) : List (Block A) :=
  joinRuns ⟨[], []⟩ (compact (search (old.length + new.length + 1) old new))

-- Inserted lines wait until the run of changes ends, so removed lines always come first.
def records : List String → List (Block String) → List LineChange
  | waiting, [] => waiting.map .inserted
  | waiting, .equal lines :: rest =>
    waiting.map .inserted ++ lines.map .unchanged ++ records [] rest
  | waiting, .delete lines :: rest => lines.map .removed ++ records waiting rest
  | waiting, .insert lines :: rest => records (waiting ++ lines) rest
  | waiting, .replace removed inserted :: rest =>
    removed.map .removed ++ records (waiting ++ inserted) rest

end Diff

def diffLines (old new : List String) : List LineChange :=
  Diff.records [] (Diff.script old new)

end PythonAssist
