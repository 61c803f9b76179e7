import PythonAssist.Document
import PythonAssist.Engine.Interface

set_option autoImplicit false

namespace PythonAssist

structure DocumentHandle where
  uri : Uri
  version : Int
  lines : List String
  script : ScriptId
  deriving DecidableEq, Repr

namespace DocumentHandle

def dropEmptyLast : List String → List String
  | [] => []
  | [last] => if last.isEmpty then [] else [last]
  | line :: rest => line :: dropEmptyLast rest

def sourceLines (handle : DocumentHandle) : List String := dropEmptyLast handle.lines

def line? (handle : DocumentHandle) (line : UInt32) : Option String := handle.lines[line.toNat]?

def text (handle : DocumentHandle) : String := String.join handle.lines

def ofDocument (document : Document) (uri : Uri) (script : ScriptId) : DocumentHandle :=
  { uri, version := document.version, lines := splitLines document.text, script }

end DocumentHandle

inductive HandleError where
  | notOpen (uri : Uri)
  | analysis (uri : Uri) (cause : EngineError)
  deriving DecidableEq, Repr

def HandleError.message : HandleError → String
  | .notOpen uri => notOpenMessage uri
  | .analysis uri cause => "Failed to analyze " ++ uri.text ++ ": " ++ cause.message

def HandleError.report : HandleError → String
  | .notOpen uri => notOpenMessage uri
  | .analysis uri cause => "Failed to analyze " ++ uri.text ++ ": " ++ cause.report

structure HandleCache where
  handles : Table Uri DocumentHandle

namespace HandleCache

def empty : HandleCache := { handles := .empty }

instance : Inhabited HandleCache := ⟨empty⟩

variable {W : Type}

def find? (cache : HandleCache) (uri : Uri) : Option DocumentHandle := cache.handles.find? uri

def contains (cache : HandleCache) (uri : Uri) : Bool := cache.handles.contains uri

def evict (engine : Engine W) (cache : HandleCache) (uri : Uri) (world : W) : HandleCache × W :=
  match cache.find? uri with
  | none => (cache, world)
  | some handle =>
    ({ handles := cache.handles.erase uri }, engine.release handle.script world)

-- A new handle for the current text. The old one goes first, so a failure leaves none.
def build (engine : Engine W) (documents : DocumentStore) (cache : HandleCache) (uri : Uri)
    (world : W) : Except HandleError DocumentHandle × HandleCache × W :=
  let (cache, world) := cache.evict engine uri world
  match documents.find? uri with
  | none => (.error (.notOpen uri), cache, world)
  | some document =>
    match engine.openScript document.text document.path world with
    | (.error cause, world) => (.error (.analysis uri cause), cache, world)
    | (.ok script, world) =>
      let handle := DocumentHandle.ofDocument document uri script
      (.ok handle, { handles := cache.handles.insert uri handle }, world)

def obtain (engine : Engine W) (documents : DocumentStore) (cache : HandleCache) (uri : Uri)
    (world : W) : Except HandleError DocumentHandle × HandleCache × W :=
  match cache.find? uri with
  | some handle => (.ok handle, cache, world)
  | none => cache.build engine documents uri world

def clear (engine : Engine W) (cache : HandleCache) (world : W) : HandleCache × W :=
  (empty, cache.handles.values.foldl (fun world handle => engine.release handle.script world) world)

end HandleCache

end PythonAssist
