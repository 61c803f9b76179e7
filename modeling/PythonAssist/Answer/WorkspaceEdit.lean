import PythonAssist.Edit
import PythonAssist.Engine.Payload
import PythonAssist.Uri.FilePath

set_option autoImplicit false

namespace PythonAssist

structure DocumentEdit where
  uri : Uri
  version : Option Int
  edits : List TextEdit
  deriving DecidableEq, Repr

inductive DocumentEditError where
  | edits (path : Path) (cause : EditError)
  | noUri (cause : Uri.PathError)
  deriving DecidableEq, Repr

def DocumentEditError.message : DocumentEditError → String
  | .edits path cause => "Failed to compute edits for " ++ path.display ++ ": " ++ cause.message
  | .noUri cause => cause.message

namespace DocumentEdit

def ofFile (versionOf : Uri → Option Int) (path : Path) (file : ChangedFile) :
    Except DocumentEditError (Option DocumentEdit) :=
  match textEdits file.oldCode file.newCode with
  | .error cause => .error (.edits path cause)
  | .ok [] => .ok none
  | .ok (first :: rest) =>
    match Uri.ofPath path with
    | .error cause => .error (.noUri cause)
    | .ok uri => .ok (some { uri, version := versionOf uri, edits := first :: rest })

def ofFiles (versionOf : Uri → Option Int) :
    List (Path × ChangedFile) → Except DocumentEditError (List DocumentEdit)
  | [] => .ok []
  | (path, file) :: rest =>
    match ofFile versionOf path file with
    | .error e => .error e
    | .ok found =>
      match ofFiles versionOf rest with
      | .error e => .error e
      | .ok others => .ok (found.toList ++ others)

def ofRefactoring (versionOf : Uri → Option Int) (refactoring : Refactoring) :
    Except DocumentEditError (List DocumentEdit) :=
  ofFiles versionOf refactoring.changedFiles

def toJson (edit : DocumentEdit) : Json :=
  .object [("edits", .list TextEdit.toJson edit.edits),
    ("textDocument", .object [("uri", .string edit.uri.text),
      ("version", .option Json.integer edit.version)])]

end DocumentEdit

def inlineActionToJson (edits : List DocumentEdit) : Json :=
  .object [("edit", .object [("documentChanges", .list DocumentEdit.toJson edits)]),
    ("kind", .string "refactor.inline"), ("title", .string "Inline variable")]

end PythonAssist
