import PythonAssist.Text.Split
import PythonAssist.Answer.Location

set_option autoImplicit false

namespace PythonAssist

inductive SymbolStyle where
  | hierarchical
  | flat
  deriving DecidableEq, Repr

inductive SymbolKind where
  | module
  | classDef
  | function
  | variable
  | null
  deriving DecidableEq, Repr

inductive SymbolTree where
  | node (name : String) (kind : SymbolKind) (range : Range) (children : List SymbolTree)
  deriving Repr

structure SymbolEntry where
  name : String
  kind : SymbolKind
  location : Location
  container : Option String
  deriving DecidableEq, Repr

inductive Symbols where
  | nested (symbols : List SymbolTree)
  | flat (symbols : List SymbolEntry)
  deriving Repr

structure ParentAfterChild where
  child : String
  parent : UInt32
  deriving DecidableEq, Repr

def ParentAfterChild.message (e : ParentAfterChild) : String :=
  "Symbol '" ++ e.child ++ "' is listed before its parent (id " ++ toString e.parent.toNat ++ ")"

def NameKind.symbolKind : NameKind → SymbolKind
  | .module => .module
  | .classDef => .classDef
  | .pseudoClass => .classDef
  | .function => .function
  | .statement => .variable
  | .instanceOf => .variable
  | _ => .null

namespace Symbols

def spanOf (lines : List String) (name : SymbolName) : Range :=
  tokenRange lines (previous name.line) name.column

def checkOrder (ids : List UInt32) : List UInt32 → List SymbolName → Except ParentAfterChild Unit
  | _, [] => .ok ()
  | seen, name :: rest =>
    match name.parentId with
    | none => checkOrder ids (name.id :: seen) rest
    | some parent =>
      if ids.contains parent && !seen.contains parent then
        .error { child := name.name, parent }
      else checkOrder ids (name.id :: seen) rest

def nestedFrom (lines : List String) :
    Nat → Option UInt32 → List SymbolName → List SymbolTree × List SymbolName
  | 0, _, names => ([], names)
  | _ + 1, _, [] => ([], [])
  | fuel + 1, parent, name :: rest =>
    if parent.isSome && name.parentId != parent then ([], name :: rest)
    else if name.kind = .param then nestedFrom lines fuel parent rest
    else
      let (children, rest) := nestedFrom lines fuel (some name.id) rest
      let (siblings, rest) := nestedFrom lines fuel parent rest
      (.node name.name name.kind.symbolKind (spanOf lines name) children :: siblings, rest)

def container (name : SymbolName) : Option String :=
  match name.parentFullName with
  | none => none
  | some parent =>
    if parent = name.moduleName then none
    else
      match stripFront (name.moduleName.toList ++ ['.']) parent.toList with
      | some relative => some (String.ofList relative)
      | none => some parent

def entry (uri : Uri) (lines : List String) (name : SymbolName) : SymbolEntry :=
  { name := name.name, kind := name.kind.symbolKind
    location := { uri, range := spanOf lines name }, container := container name }

def ofNames (style : SymbolStyle) (uri : Uri) (lines : List String) (names : List SymbolName) :
    Except ParentAfterChild (Option Symbols) :=
  if names.isEmpty then .ok none
  else
    match style with
    | .hierarchical =>
      match checkOrder (names.map SymbolName.id) [] names with
      | .error e => .error e
      | .ok () => .ok (some (.nested (nestedFrom lines (names.length + 1) none names).1))
    | .flat =>
      .ok (some (.flat ((names.filter fun name => name.kind != .param).map (entry uri lines))))

end Symbols

def SymbolKind.toJson : SymbolKind → Json
  | .module => .nat 2
  | .classDef => .nat 5
  | .function => .nat 12
  | .variable => .nat 13
  | .null => .nat 21

mutual
def SymbolTree.toJson : SymbolTree → Json
  | .node name kind range children =>
    .object
      ((match children with
        | [] => []
        | first :: rest =>
          [("children", .array (SymbolTree.toJson first :: SymbolTree.listToJson rest))]) ++
      [("kind", kind.toJson), ("name", .string name), ("range", range.toJson),
        ("selectionRange", range.toJson)])

def SymbolTree.listToJson : List SymbolTree → List Json
  | [] => []
  | first :: rest => SymbolTree.toJson first :: SymbolTree.listToJson rest
end

def SymbolEntry.toJson (entry : SymbolEntry) : Json :=
  .object
    ((match entry.container with
      | none => []
      | some container => [("containerName", .string container)]) ++
    [("kind", entry.kind.toJson), ("location", entry.location.toJson),
      ("name", .string entry.name)])

def Symbols.toJson : Symbols → Json
  | .nested symbols => .array (SymbolTree.listToJson symbols)
  | .flat symbols => .list SymbolEntry.toJson symbols

end PythonAssist
