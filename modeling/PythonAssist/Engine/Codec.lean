import PythonAssist.Json.Decode
import PythonAssist.Engine.Payload

set_option autoImplicit false

namespace PythonAssist

namespace Path

def toJson (path : Path) : Json := .string path.display

def decode : Json → Decoded Path
  | .string value => .ok (.ofString value)
  | value => Json.mismatch "path string" value

end Path

def Json.uint32 (value : UInt32) : Json := .nat value.toNat

namespace Environment

def reader : Reader Environment :=
  Environment.mk <$> .required "executable" Path.decode <*>
    .required "version" Json.decodeString <*>
    .withDefault "sys_path" (Json.decodeList Json.decodeString) []

def decode : Json → Decoded Environment := reader.decode "struct Environment"

def toJson (e : Environment) : Json :=
  .object [("executable", e.executable.toJson), ("sys_path", .strings e.sysPath),
    ("version", .string e.version)]

end Environment

namespace SyntaxErrorSpan

def reader : Reader SyntaxErrorSpan :=
  SyntaxErrorSpan.mk <$> .required "line" Json.decodeUInt32 <*>
    .required "column" Json.decodeUInt32 <*> .required "until_line" Json.decodeUInt32 <*>
    .required "until_column" Json.decodeUInt32

def decode : Json → Decoded SyntaxErrorSpan := reader.decode "struct SyntaxErrorSpan"

def toJson (e : SyntaxErrorSpan) : Json :=
  .object [("column", .uint32 e.column), ("line", .uint32 e.line),
    ("until_column", .uint32 e.untilColumn), ("until_line", .uint32 e.untilLine)]

end SyntaxErrorSpan

namespace NameKind

def text : NameKind → String
  | .module => "module"
  | .classDef => "class"
  | .instanceOf => "instance"
  | .function => "function"
  | .param => "param"
  | .path => "path"
  | .keyword => "keyword"
  | .property => "property"
  | .statement => "statement"
  | .pseudoClass => "_pseudotreenameclass"
  | .other => "other"

def known : List NameKind :=
  [.module, .classDef, .instanceOf, .function, .param, .path, .keyword, .property, .statement,
    .pseudoClass]

def ofText (text : String) : NameKind :=
  (known.find? fun kind => kind.text = text).getD .other

def toJson (kind : NameKind) : Json := .string kind.text

end NameKind

def decodeVariant {A : Type} (ofName : String → Decoded A) : Json → Decoded A
  | .string name => ofName name
  | .object [(name, value)] => do
    let variant ← ofName name
    match value with
    | .null => return variant
    | value => Json.mismatch "unit" value
  | .object _ => .error (.wrongValue .map "map with a single key")
  | value => Json.mismatch "string or map" value

def NameKind.decode : Json → Decoded NameKind := decodeVariant fun name => .ok (.ofText name)

namespace ParamKind

def text : ParamKind → String
  | .positionalOnly => "POSITIONAL_ONLY"
  | .positionalOrKeyword => "POSITIONAL_OR_KEYWORD"
  | .varPositional => "VAR_POSITIONAL"
  | .keywordOnly => "KEYWORD_ONLY"
  | .varKeyword => "VAR_KEYWORD"

def all : List ParamKind :=
  [.positionalOnly, .positionalOrKeyword, .varPositional, .keywordOnly, .varKeyword]

def ofText (name : String) : Decoded ParamKind :=
  match all.find? fun kind => kind.text = name with
  | some kind => .ok kind
  | none => .error (.unknownVariant name (all.map text))

def toJson (kind : ParamKind) : Json := .string kind.text

def decode : Json → Decoded ParamKind := decodeVariant ofText

end ParamKind

namespace SignatureParam

def reader : Reader SignatureParam :=
  SignatureParam.mk <$> .required "name" Json.decodeString <*> .required "kind" ParamKind.decode <*>
    .withDefault "description" Json.decodeString ""

def decode : Json → Decoded SignatureParam := reader.decode "struct SignatureParam"

def toJson (p : SignatureParam) : Json :=
  .object [("description", .string p.description), ("kind", p.kind.toJson),
    ("name", .string p.name)]

end SignatureParam

namespace Signature

def reader : Reader Signature :=
  Signature.mk <$> .required "label" Json.decodeString <*>
    .withDefault "index" (Json.decodeOption Json.decodeUInt32) none <*>
    .withDefault "params" (Json.decodeList SignatureParam.decode) []

def decode : Json → Decoded Signature := reader.decode "struct Signature"

def toJson (s : Signature) : Json :=
  .object [("index", .option Json.uint32 s.index), ("label", .string s.label),
    ("params", .list SignatureParam.toJson s.params)]

end Signature

namespace Completion

def reader : Reader Completion :=
  Completion.mk <$> .required "name" Json.decodeString <*>
    .required "complete" Json.decodeString <*>
    .required "type" NameKind.decode <*> .withDefault "docstring" Json.decodeString "" <*>
    .withDefault "signatures" (Json.decodeList Signature.decode) []

def decode : Json → Decoded Completion := reader.decode "struct Completion"

def toJson (c : Completion) : Json :=
  .object [("complete", .string c.complete), ("docstring", .string c.docstring),
    ("name", .string c.name), ("signatures", .list Signature.toJson c.signatures),
    ("type", c.kind.toJson)]

end Completion

namespace Name

def reader : Reader Name :=
  Name.mk <$> .required "name" Json.decodeString <*>
    .withDefault "module_path" (Json.decodeOption Path.decode) none <*>
    .required "line" Json.decodeUInt32 <*> .required "column" Json.decodeUInt32 <*>
    .withDefault "docstring" Json.decodeString ""

def decode : Json → Decoded Name := reader.decode "struct Name"

def toJson (n : Name) : Json :=
  .object [("column", .uint32 n.column), ("docstring", .string n.docstring),
    ("line", .uint32 n.line), ("module_path", .option Path.toJson n.modulePath),
    ("name", .string n.name)]

end Name

namespace SymbolName

def reader : Reader SymbolName :=
  SymbolName.mk <$> .required "id" Json.decodeUInt32 <*>
    .withDefault "parent_id" (Json.decodeOption Json.decodeUInt32) none <*>
    .required "name" Json.decodeString <*> .required "type" NameKind.decode <*>
    .required "line" Json.decodeUInt32 <*> .required "column" Json.decodeUInt32 <*>
    .withDefault "full_name" (Json.decodeOption Json.decodeString) none <*>
    .withDefault "parent_full_name" (Json.decodeOption Json.decodeString) none <*>
    .withDefault "module_name" Json.decodeString ""

def decode : Json → Decoded SymbolName := reader.decode "struct SymbolName"

def toJson (s : SymbolName) : Json :=
  .object [("column", .uint32 s.column), ("full_name", .option .string s.fullName),
    ("id", .uint32 s.id), ("line", .uint32 s.line), ("module_name", .string s.moduleName),
    ("name", .string s.name), ("parent_full_name", .option .string s.parentFullName),
    ("parent_id", .option Json.uint32 s.parentId), ("type", s.kind.toJson)]

end SymbolName

namespace ChangedFile

def reader : Reader ChangedFile :=
  ChangedFile.mk <$> .required "old_code" Json.decodeString <*>
    .required "new_code" Json.decodeString

def decode : Json → Decoded ChangedFile := reader.decode "struct ChangedFile"

def toJson (f : ChangedFile) : Json :=
  .object [("new_code", .string f.newCode), ("old_code", .string f.oldCode)]

end ChangedFile

namespace Refactoring

def decodeFiles : Json → Decoded (List (Path × ChangedFile))
  | .object fields => fields.mapM fun field => do
    return (Path.ofString field.1, ← ChangedFile.decode field.2)
  | value => Json.mismatch "a map" value

def reader : Reader Refactoring := Refactoring.ofFiles <$> .required "changed_files" decodeFiles

def decode : Json → Decoded Refactoring := reader.decode "struct Refactoring"

def toJson (r : Refactoring) : Json :=
  .object [("changed_files",
    Json.ofFields (r.changedFiles.map fun file => (file.1.display, file.2.toJson)))]

end Refactoring

namespace FlakeReport

def variants : List String := ["flake", "syntax_error", "unexpected_error"]

def flakeReader : Reader FlakeReport :=
  FlakeReport.flake <$> .required "category" Json.decodeString <*>
    .required "line" Json.decodeUInt32 <*> .required "column" Json.decodeUInt32 <*>
    .required "message" Json.decodeString

def syntaxErrorReader : Reader FlakeReport :=
  FlakeReport.syntaxError <$> .required "message" Json.decodeString <*>
    .required "line" Json.decodeUInt32 <*>
    .withDefault "column" (Json.decodeOption Json.decodeUInt32) none

def unexpectedErrorReader : Reader FlakeReport :=
  FlakeReport.unexpectedError <$> .required "message" Json.decodeString

def select : Json → Decoded (Reader FlakeReport × String)
  | .string "flake" => .ok (flakeReader, "struct variant PyflakesReport::Flake")
  | .string "syntax_error" => .ok (syntaxErrorReader, "struct variant PyflakesReport::SyntaxError")
  | .string "unexpected_error" =>
    .ok (unexpectedErrorReader, "struct variant PyflakesReport::UnexpectedError")
  | .string name => .error (.unknownVariant name variants)
  | value => Json.mismatch "variant identifier" value

def decode : Json → Decoded FlakeReport
  | .object fields =>
    match Json.field? "kind" fields with
    | none => .error (.missingField "kind")
    | some tag => do
      let (reader, _) ← select tag
      reader.ofObject (fields.filter fun field => field.1 != "kind")
  | .array [] => .error (.missingField "kind")
  | .array (tag :: items) => do
    let (reader, what) ← select tag
    reader.ofHeldItems what items
  | value => Json.mismatch "internally tagged enum PyflakesReport" value

def toJson : FlakeReport → Json
  | .flake category line column message =>
    .object [("category", .string category), ("column", .uint32 column), ("kind", .string "flake"),
      ("line", .uint32 line), ("message", .string message)]
  | .syntaxError message line column =>
    .object [("column", .option Json.uint32 column), ("kind", .string "syntax_error"),
      ("line", .uint32 line), ("message", .string message)]
  | .unexpectedError message =>
    .object [("kind", .string "unexpected_error"), ("message", .string message)]

end FlakeReport

namespace StyleFinding

def reader : Reader StyleFinding :=
  StyleFinding.mk <$> .required "line" Json.decodeUInt32 <*>
    .required "column" Json.decodeUInt32 <*> .required "text" Json.decodeString

def decode : Json → Decoded StyleFinding := reader.decode "struct StyleFinding"

def toJson (f : StyleFinding) : Json :=
  .object [("column", .uint32 f.column), ("line", .uint32 f.line), ("text", .string f.text)]

end StyleFinding

end PythonAssist
