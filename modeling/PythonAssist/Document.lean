import PythonAssist.Text.Lines
import PythonAssist.Text.Units
import PythonAssist.Position
import PythonAssist.Table
import PythonAssist.Uri.FilePath

set_option autoImplicit false

namespace PythonAssist

structure Document where
  uri : Uri
  path : Option Path
  languageId : String
  version : Int
  text : String
  deriving DecidableEq, Repr

structure DocumentItem where
  uri : Uri
  languageId : String
  version : Int
  text : String
  deriving DecidableEq, Repr

structure ContentChange where
  range : Option Range
  text : String
  deriving DecidableEq, Repr

def notOpenMessage (uri : Uri) : String := "Document not open: " ++ uri.text

namespace Document

-- How many characters stand before a position. A line past the last one means the end of the
-- text, a column past the end of its line the end of the line.
def offset (text : List Char) (position : Position) : Nat :=
  let lines := Lines.split text
  let line := position.line.toNat
  match lines[line]? with
  | none => text.length
  | some found =>
    (lines.take line).flatten.length +
      (Units.take position.character.toNat (Lines.content found)).length

def splice (text : List Char) (range : Range) (inserted : List Char) : List Char :=
  let start := offset text range.start
  let stop := max start (offset text range.stop)
  text.take start ++ inserted ++ text.drop stop

def applyChange (text : String) (change : ContentChange) : String :=
  match change.range with
  | none => change.text
  | some range => String.ofList (splice text.toList range change.text.toList)

def applyChanges (text : String) (changes : List ContentChange) : String :=
  changes.foldl applyChange text

def ofItem (item : DocumentItem) : Document :=
  { uri := item.uri, path := item.uri.toPath, languageId := item.languageId
    version := item.version, text := item.text }

end Document

structure DocumentStore where
  documents : Table Uri Document

namespace DocumentStore

def empty : DocumentStore := { documents := .empty }

instance : Inhabited DocumentStore := ⟨empty⟩

def find? (store : DocumentStore) (uri : Uri) : Option Document := store.documents.find? uri

def version? (store : DocumentStore) (uri : Uri) : Option Int :=
  (store.find? uri).map Document.version

def openItem (store : DocumentStore) (item : DocumentItem) : DocumentStore :=
  { documents := store.documents.insert item.uri (.ofItem item) }

def change (store : DocumentStore) (uri : Uri) (version : Int) (changes : List ContentChange) :
    Option DocumentStore :=
  match store.find? uri with
  | none => none
  | some document =>
    let text := Document.applyChanges document.text changes
    some { documents := store.documents.insert uri { document with text, version } }

def save (store : DocumentStore) (uri : Uri) (text : Option String) : Option DocumentStore :=
  match store.find? uri with
  | none => none
  | some document =>
    match text with
    | none => some store
    | some text => some { documents := store.documents.insert uri { document with text } }

def close (store : DocumentStore) (uri : Uri) : DocumentStore :=
  { documents := store.documents.erase uri }

def uris (store : DocumentStore) : List Uri :=
  store.documents.keys.mergeSort fun a b => decide (a.text ≤ b.text)

end DocumentStore

end PythonAssist
