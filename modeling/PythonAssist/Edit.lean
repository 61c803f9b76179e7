import PythonAssist.Text.Lines
import PythonAssist.Position
import PythonAssist.Diff

set_option autoImplicit false

namespace PythonAssist

inductive EditError where
  | removedAfterInserted (line : Nat)
  | tooManyLines
  deriving DecidableEq, Repr

def EditError.message : EditError → String
  | .removedAfterInserted line =>
    "diff output removes original line " ++ toString line ++ " after inserting into the same run"
  | .tooManyLines => "buffer has more lines than an LSP position can address"

namespace Edit

structure Pending where
  start : Nat
  replaces : Bool
  inserted : Bool
  text : String
  deriving DecidableEq, Repr

def Pending.openAt (start : Nat) : Pending :=
  { start, replaces := false, inserted := false, text := "" }

def Pending.finish (pending : Pending) (cursor : Nat) : TextEdit :=
  { range :=
      { start := .ofNat pending.start 0
        stop := .ofNat (if pending.replaces then cursor else pending.start) 0 }
    newText := pending.text }

def closing (cursor : Nat) : Option Pending → List TextEdit
  | none => []
  | some pending => [pending.finish cursor]

def advance (cursor : Nat) : Except EditError Nat :=
  if cursor < positionLimit then .ok (cursor + 1) else .error .tooManyLines

-- The cursor counts the old lines that have been passed.
def collect : Nat → Option Pending → List LineChange → Except EditError (List TextEdit)
  | cursor, pending, [] => .ok (closing cursor pending)
  | cursor, pending, .removed _ :: rest =>
    let run := pending.getD (.openAt cursor)
    if run.inserted then .error (.removedAfterInserted cursor)
    else do
      let next ← advance cursor
      collect next (some { run with replaces := true }) rest
  | cursor, pending, .inserted line :: rest =>
    let run := pending.getD (.openAt cursor)
    collect cursor (some { run with inserted := true, text := run.text ++ line }) rest
  | cursor, pending, .unchanged _ :: rest => do
    let next ← advance cursor
    let edits ← collect next none rest
    return closing cursor pending ++ edits

end Edit

def coalesce (changes : List LineChange) : Except EditError (List TextEdit) :=
  Edit.collect 0 none changes

def textEdits (old new : String) : Except EditError (List TextEdit) :=
  coalesce (diffLines (splitLines old) (splitLines new))

end PythonAssist
