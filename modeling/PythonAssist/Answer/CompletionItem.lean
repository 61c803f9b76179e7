import PythonAssist.Text.WordClass
import PythonAssist.Answer.Location

set_option autoImplicit false

namespace PythonAssist

inductive CompletionStyle where
  | plain
  | snippets
  deriving DecidableEq, Repr

inductive ItemKind where
  | text
  | function
  | variable
  | classDef
  | module
  | keyword
  | reference
  deriving DecidableEq, Repr

inductive Insertion where
  | edit (edit : TextEdit)
  | snippet (text : String)
  deriving DecidableEq, Repr

structure CompletionItem where
  label : String
  kind : ItemKind
  documentation : Option String
  sortText : String
  insertion : Insertion
  deriving DecidableEq, Repr

def NameKind.itemKind : NameKind → ItemKind
  | .module => .module
  | .classDef => .classDef
  | .instanceOf => .reference
  | .function => .function
  | .param => .variable
  | .keyword => .keyword
  | .statement => .keyword
  | _ => .text

namespace CompletionItem

def replaceRange (line : String) (position : Position) : Range :=
  let rest := Units.drop position.character.toNat line.toList
  let word := rest.takeWhile isWordCharacter
  { start := position
    stop :=
      { line := position.line
        character := addColumns position.character (Units.count word) } }

def sortKey (name : String) : String :=
  match name.toList with
  | '_' :: '_' :: _ => "zz" ++ name
  | '_' :: _ => "za" ++ name
  | _ => "aa" ++ name

def shownLabel (completion : Completion) : String :=
  match completion.name.toList with
  | '\'' :: rest =>
    if completion.complete.toList.head? = some '\'' then completion.name else String.ofList rest
  | _ => completion.name

def base (completion : Completion) (range : Range) : CompletionItem :=
  { label := shownLabel completion
    kind := completion.kind.itemKind
    documentation := if completion.docstring.isEmpty then none else some completion.docstring
    sortText := sortKey completion.name
    insertion := .edit { range, newText := completion.complete } }

def isOptional (param : SignatureParam) : Bool :=
  decide (param.kind = .varKeyword) || param.hasDefault

def requiredParams (params : List SignatureParam) : List (SignatureParam × Nat) :=
  ((params.takeWhile fun param => !isOptional param).zipIdx 1).filter fun (param, _) =>
    param.name != "/"

def placeholder (param : SignatureParam) (number : Nat) : String :=
  (if param.kind = .keywordOnly then param.name ++ "=" else "") ++
    "$\x7b" ++ toString number ++ ":" ++ param.name ++ "\x7d"

def snippet (item : CompletionItem) (completion : Completion) (signature : Signature) :
    CompletionItem :=
  let params := requiredParams signature.params
  let names := params.map fun (param, _) => param.name
  let placeholders := params.map fun (param, number) => placeholder param number
  { item with
    label := completion.name ++ "(" ++ ", ".intercalate names ++ ")"
    insertion := .snippet (completion.name ++ "(" ++ ", ".intercalate placeholders ++ ")$0") }

def ofCompletion (style : CompletionStyle) (range : Range) (completion : Completion) :
    List CompletionItem :=
  let item := base completion range
  match style with
  | .plain => [item]
  | .snippets => item :: completion.signatures.map (snippet item completion)

def ofCompletions (style : CompletionStyle) (completions : List Completion) (range : Range) :
    List CompletionItem :=
  completions.flatMap (ofCompletion style range)

def kindNumber : ItemKind → Nat
  | .text => 1
  | .function => 3
  | .variable => 6
  | .classDef => 7
  | .module => 9
  | .keyword => 14
  | .reference => 18

def toJson (item : CompletionItem) : Json :=
  let documentation := match item.documentation with
    | none => []
    | some text => [("documentation", Json.string text)]
  let inserted := match item.insertion with
    | .edit _ => []
    | .snippet text => [("insertText", .string text), ("insertTextFormat", Json.nat 2)]
  let edit := match item.insertion with
    | .edit edit => [("textEdit", edit.toJson)]
    | .snippet _ => []
  .object (documentation ++ inserted ++ [("kind", .nat (kindNumber item.kind)),
    ("label", .string item.label), ("sortText", .string item.sortText)] ++ edit)

end CompletionItem

end PythonAssist
