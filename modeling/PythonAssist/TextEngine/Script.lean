import PythonAssist.Json.Value
import PythonAssist.Path
import PythonAssist.TextEngine.Words

set_option autoImplicit false

namespace PythonAssist

namespace TextEngine

structure Script where
  code : String
  path : Option String
  deriving DecidableEq, Repr

inductive Answer where
  | result (value : Json)
  | refused (reason : String)
  | failed (reason : String)
  | unknownMethod (method : String)
  | crash

namespace Script

def chars (script : Script) : List Char := script.code.toList

def lines (script : Script) : List (List Char) := codeLines script.chars

def line? (script : Script) (line : Nat) : Option (List Char) :=
  if line = 0 then none else script.lines[line - 1]?

def wordAt? (script : Script) (line column : Nat) : Option (List Char) :=
  (script.line? line).bind fun text => wordAt text column

def stem (name : Bytes) : Bytes :=
  let back := name.reverse.takeWhile (· != Path.dot)
  let front := name.take (name.length - back.length - 1)
  if back.length = name.length || front.isEmpty then name else front

def moduleName (script : Script) : String :=
  match script.path.bind fun path => (Path.ofString path).components.getLast? with
  | some (.named name) => Utf8.decodeLossy (stem name)
  | _ => "__main__"

def pathToJson (script : Script) : Json := .option .string script.path

def text (chars : List Char) : Json := .string (String.ofList chars)

-- Each line with an open parenthesis before a colon is wrong there.
def syntaxErrors (script : Script) : Json :=
  .array ((script.lines.zipIdx 1).filterMap fun (line, number) =>
    (findColumn "(:".toList 0 line).map fun column =>
      .ofFields [("line", .nat number), ("column", .nat column), ("until_line", .nat number),
        ("until_column", .nat (column + 2))])

def sortedWords (found : List (List Char)) : List String :=
  (found.map String.ofList).eraseDups.mergeSort fun a b => decide (a ≤ b)

def completionToJson (length : Nat) (word : String) : Json :=
  .ofFields [("name", .string word), ("complete", text (word.toList.drop length)),
    ("type", .string "statement"), ("docstring", .string ""), ("signatures", .array [])]

def complete (script : Script) (line column : Nat) : Answer :=
  match script.line? line with
  | none => .result (.array [])
  | some found =>
    match lastWord (before found column) with
    | .broken => .crash
    | .word front =>
      let longer := (words script.chars).filter fun word =>
        front.isPrefixOf word && word != front
      .result (.list (completionToJson front.length) (sortedWords longer))

def describe (script : Script) (question : String) (line column : Nat) : Json :=
  match script.wordAt? line column with
  | none => .array []
  | some word =>
    .array [.ofFields [("name", text word), ("module_path", script.pathToJson),
      ("line", .nat line), ("column", .nat column),
      ("docstring", .string (question ++ ": " ++ String.ofList word))]]

def paramToJson (name : String) : Json :=
  .ofFields [("name", .string name), ("kind", .string "POSITIONAL_OR_KEYWORD"),
    ("description", .string ("param " ++ name))]

def splitCall (front : List Char) : Option (List Char × List Char) :=
  let inside := (front.reverse.takeWhile (· != '(')).reverse
  if inside.length = front.length then none
  else some (front.take (front.length - inside.length - 1), inside)

def signatures (script : Script) (line column : Nat) : Answer :=
  match (script.line? line).bind fun found => splitCall (before found column) with
  | none => .result (.array [])
  | some (front, inside) =>
    match lastWord front with
    | .broken => .crash
    | .word name =>
      if name.isEmpty then .result (.array [])
      else
        .result (.array [.ofFields [("label", .string (String.ofList name ++ "(a, b)")),
          ("index", .nat (inside.count ',')),
          ("params", .array [paramToJson "a", paramToJson "b"])]])

structure DefinedName where
  line : Nat
  indent : Nat
  definition : Definition
  deriving DecidableEq, Repr

def DefinedName.column (found : DefinedName) : Nat :=
  found.indent + byteWidth found.definition.keyword

def definitions (script : Script) : List DefinedName :=
  (script.lines.zipIdx 1).filterMap fun (line, number) =>
    let trimmed := trimFront line
    (definition trimmed).map fun definition =>
      { line := number, indent := byteWidth line - byteWidth trimmed, definition }

def placeToJson (script : Script) (word : List Char) (line column : Nat) : Json :=
  .ofFields [("name", text word), ("module_path", script.pathToJson), ("line", .nat line),
    ("column", .nat column)]

def goto (script : Script) (line column : Nat) : Json :=
  match script.wordAt? line column with
  | none => .array []
  | some word =>
    match script.definitions.find? fun found => found.definition.name = word with
    | none => .array []
    | some found => .array [script.placeToJson word found.line found.column]

def references (script : Script) (line column : Nat) : Json :=
  match script.wordAt? line column with
  | none => .array []
  | some word =>
    .array ((script.lines.zipIdx 1).flatMap fun (text, number) =>
      (occurrences text word).map (script.placeToJson word number))

structure Scope where
  indent : Nat
  id : Nat
  fullName : String
  deriving DecidableEq, Repr

def kindOf (definition : Definition) : String :=
  if definition.keyword = "class ".toList then "class"
  else if definition.keyword = "def ".toList then "function"
  else "statement"

-- Definitions with deeper lines stand in those around them; `scopes` lists the innermost first.
def namesFrom (moduleName : String) : Nat → List Scope → List DefinedName → List Json
  | _, _, [] => []
  | id, scopes, found :: rest =>
    let scopes := scopes.dropWhile fun scope => decide (found.indent ≤ scope.indent)
    let parent := scopes.head?
    let parentName := (parent.map Scope.fullName).getD moduleName
    let name := String.ofList found.definition.name
    let fullName := parentName ++ "." ++ name
    let kind := kindOf found.definition
    let inner :=
      if kind = "statement" then scopes
      else { indent := found.indent, id, fullName } :: scopes
    Json.ofFields [("id", .nat id), ("parent_id", .option (fun scope => .nat scope.id) parent),
        ("name", .string name), ("type", .string kind), ("line", .nat found.line),
        ("column", .nat found.column), ("full_name", .string fullName),
        ("parent_full_name", .string parentName), ("module_name", .string moduleName)] ::
      namesFrom moduleName (id + 1) inner rest

def names (script : Script) : Json := .array (namesFrom script.moduleName 0 [] script.definitions)

def takeAssignment (start : List Char) : List (List Char) → Option (List Char × List (List Char))
  | [] => none
  | line :: rest =>
    match stripFront start line with
    | some value => some (trimBack value, rest)
    | none => (takeAssignment start rest).map fun (value, lines) => (value, line :: lines)

def inlined (code word : List Char) : Option (List Char) :=
  (takeAssignment (word ++ " = ".toList) (linesWithEnds code)).map fun (value, lines) =>
    (lines.map (replaceWord word value)).flatten

def inlineAt (script : Script) (line column : Nat) : Answer :=
  match script.wordAt? line column with
  | none => .refused "There is no name under the cursor"
  | some word =>
    match script.path with
    | none => .refused "Cannot inline in an unsaved file"
    | some path =>
      match inlined script.chars word with
      | none => .refused "No assignment to inline"
      | some code =>
        .result (.object [("changed_files", .object [(path,
          .ofFields [("old_code", .string script.code), ("new_code", text code)])])])

end Script

end TextEngine

end PythonAssist
