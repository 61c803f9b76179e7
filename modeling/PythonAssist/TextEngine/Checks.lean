import PythonAssist.Json.Value
import PythonAssist.TextEngine.Words

set_option autoImplicit false

namespace PythonAssist

namespace TextEngine

def importedName (line : List Char) : Option (List Char) :=
  (stripFront "import ".toList line).map trimChars

def useCount (lines : List (List Char)) (name : List Char) : Nat :=
  lines.foldl (fun count line => count + (occurrences line name).length) 0

def unusedImportToJson (number : Nat) (name : List Char) : Json :=
  .ofFields [("kind", .string "flake"), ("category", .string "UnusedImport"),
    ("line", .nat number), ("column", .nat 0),
    ("message", .string ("'" ++ String.ofList name ++ "' imported but unused"))]

def unusedImports (code : String) : Json :=
  let lines := codeLines code.toList
  .array ((lines.zipIdx 1).filterMap fun (line, number) =>
    match importedName line with
    | none => none
    | some name =>
      if useCount lines name ≤ 1 then some (unusedImportToJson number name) else none)

def findingToJson (line column : Nat) (text : String) : Json :=
  .ofFields [("line", .nat line), ("column", .nat column), ("text", .string text)]

def dropLineEnd (line : List Char) : List Char :=
  (line.reverse.dropWhile fun c => c == '\n' || c == '\r').reverse

def longLine (limit number : Nat) (line : List Char) : List Json :=
  if limit < line.length then
    [findingToJson number limit
      ("E501 line too long (" ++ toString line.length ++ " > " ++ toString limit ++ " characters)")]
  else []

def trailingSpace (number : Nat) (line : List Char) : List Json :=
  let trimmed := trimBack line
  if trimmed.length < line.length then
    [findingToJson number (byteWidth trimmed) "W291 trailing whitespace"]
  else []

def styleFindings (limit : Nat) (lines : List String) : Json :=
  .array ((lines.zipIdx 1).flatMap fun (line, number) =>
    let line := dropLineEnd line.toList
    longLine limit number line ++ trailingSpace number line)

end TextEngine

end PythonAssist
