import PythonAssist.Configuration.Source
import PythonAssist.Lint.StyleOptions

set_option autoImplicit false

namespace PythonAssist

namespace StyleLayer

def sectionName : String := "pycodestyle"

def keyValue (fields : Fields) (key : String) : Option Json :=
  ConfigSource.getAt [sectionName, key] (.object fields)

def codes (text : String) : List String :=
  ((splitOn ',' text.toList).map trimChars).filter (fun code => !code.isEmpty) |>.map String.ofList

def codeList (fields : Fields) (key : String) : Option (List String) :=
  ((keyValue fields key).bind ConfigSource.asText).map codes

-- A length that is no number spoils the whole file.
def length (fields : Fields) (key : String) : Option (Option UInt32) :=
  match keyValue fields key with
  | none => some none
  | some value =>
    match ConfigSource.asText value with
    | none => none
    | some text =>
      (unsigned? 4294967296 (trimChars text.toList)).map fun n => some (UInt32.ofNat n)

def ofFields (fields : Fields) : Option StyleLayer := do
  let maxLineLength ← length fields "max-line-length"
  let maxDocLength ← length fields "max-doc-length"
  return {
    ignore := codeList fields "ignore"
    select := codeList fields "select"
    maxLineLength, maxDocLength
    hangClosing := (keyValue fields "hang-closing").bind ConfigSource.asFlag }

def ofFile (disk : Disk) (path : Path) : Option StyleLayer := do
  let bytes ← disk.read path
  let fields ← Ini.read (ConfigSource.textOf bytes)
  ofFields (ConfigSource.addTo [] fields)

end StyleLayer

namespace StyleOptions

def projectFiles : List String := ["setup.cfg", "tox.ini", ".pycodestyle"]

def files (folder : Option Path) (override : Option Path) : List Path :=
  (match folder with
    | none => []
    | some folder => projectFiles.map folder.join) ++ override.toList

def load (disk : Disk) (folder : Option Path) (override : Option Path) : StyleOptions :=
  (StyleLayer.stack ((files folder override).filterMap (StyleLayer.ofFile disk))).options

end StyleOptions

end PythonAssist
