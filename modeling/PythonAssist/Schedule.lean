import PythonAssist.Table
import PythonAssist.Uri.Reference

set_option autoImplicit false

namespace PythonAssist

-- Generations are counted up by one from zero, at most once for each message about a document, so
-- no life of a program meets the end of 64 bits.
structure Task (T : Type) where
  generation : Nat
  job : T
  finished : Bool
  deriving DecidableEq, Repr

structure Schedule (T : Type) where
  generations : Table Uri Nat
  last : Nat
  tasks : Table Uri (Task T)

namespace Schedule

variable {T : Type}

def empty : Schedule T := { generations := .empty, last := 0, tasks := .empty }

instance : Inhabited (Schedule T) := ⟨empty⟩

def generation? (schedule : Schedule T) (uri : Uri) : Option Nat :=
  schedule.generations.find? uri

def cancel (schedule : Schedule T) (uri : Uri) : Schedule T :=
  { generations := schedule.generations.insert uri (schedule.last + 1)
    last := schedule.last + 1
    tasks := schedule.tasks.erase uri }

def start (schedule : Schedule T) (uri : Uri) (job : T) : Schedule T :=
  let cleared := schedule.cancel uri
  { cleared with
    tasks := (cleared.tasks.filter fun _ task => !task.finished).insert uri
      { generation := cleared.last, job, finished := false } }

def forget (schedule : Schedule T) (uri : Uri) : Schedule T :=
  { schedule with
    generations := schedule.generations.erase uri
    tasks := schedule.tasks.erase uri }

def cancelAll (schedule : Schedule T) : Schedule T :=
  schedule.tasks.keys.foldl cancel schedule

def isCurrent (schedule : Schedule T) (uri : Uri) (generation : Nat) : Bool :=
  schedule.generation? uri == some generation

def markFinished (schedule : Schedule T) (uri : Uri) (generation : Nat) : Schedule T :=
  match schedule.tasks.find? uri with
  | none => schedule
  | some task =>
    if task.generation = generation then
      { schedule with tasks := schedule.tasks.insert uri { task with finished := true } }
    else schedule

def isRunning (schedule : Schedule T) (uri : Uri) : Bool :=
  match schedule.tasks.find? uri with
  | none => false
  | some task => !task.finished

def running (schedule : Schedule T) : List (Uri × Task T) :=
  (schedule.tasks.entries.filter fun entry => !entry.2.finished).mergeSort
    fun a b => decide (a.2.generation ≤ b.2.generation)

end Schedule

end PythonAssist
