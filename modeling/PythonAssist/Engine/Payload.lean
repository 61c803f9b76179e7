import PythonAssist.Path

set_option autoImplicit false

namespace PythonAssist

structure Environment where
  executable : Path
  version : String
  sysPath : List String
  deriving DecidableEq, Repr

structure SyntaxErrorSpan where
  line : UInt32
  column : UInt32
  untilLine : UInt32
  untilColumn : UInt32
  deriving DecidableEq, Repr

inductive NameKind where
  | module
  | classDef
  | instanceOf
  | function
  | param
  | path
  | keyword
  | property
  | statement
  | pseudoClass
  | other
  deriving DecidableEq, Repr

inductive ParamKind where
  | positionalOnly
  | positionalOrKeyword
  | varPositional
  | keywordOnly
  | varKeyword
  deriving DecidableEq, Repr

structure SignatureParam where
  name : String
  kind : ParamKind
  description : String
  deriving DecidableEq, Repr

def SignatureParam.hasDefault (param : SignatureParam) : Bool :=
  param.description.toList.contains '='

structure Signature where
  label : String
  index : Option UInt32
  params : List SignatureParam
  deriving DecidableEq, Repr

structure Completion where
  name : String
  complete : String
  kind : NameKind
  docstring : String
  signatures : List Signature
  deriving DecidableEq, Repr

structure Name where
  name : String
  modulePath : Option Path
  line : UInt32
  column : UInt32
  docstring : String
  deriving DecidableEq, Repr

structure SymbolName where
  id : UInt32
  parentId : Option UInt32
  name : String
  kind : NameKind
  line : UInt32
  column : UInt32
  fullName : Option String
  parentFullName : Option String
  moduleName : String
  deriving DecidableEq, Repr

structure ChangedFile where
  oldCode : String
  newCode : String
  deriving DecidableEq, Repr

structure Refactoring where
  changedFiles : List (Path × ChangedFile)
  deriving DecidableEq, Repr

inductive FlakeReport where
  | flake (category : String) (line column : UInt32) (message : String)
  | syntaxError (message : String) (line : UInt32) (column : Option UInt32)
  | unexpectedError (message : String)
  deriving DecidableEq, Repr

structure StyleFinding where
  line : UInt32
  column : UInt32
  text : String
  deriving DecidableEq, Repr

def bytePrefix? : Nat → List Char → Option (List Char)
  | 0, _ => some []
  | _ + 1, [] => none
  | size + 1, c :: rest =>
    if size + 1 < c.utf8Size then none
    else (bytePrefix? (size + 1 - c.utf8Size) rest).map (c :: ·)

def StyleFinding.code (finding : StyleFinding) : String :=
  match bytePrefix? 4 finding.text.toList with
  | some code => String.ofList code
  | none => finding.text

-- A path that names the same file as one already listed takes its place and keeps its spelling.
def insertFile (path : Path) (file : ChangedFile) :
    List (Path × ChangedFile) → List (Path × ChangedFile)
  | [] => [(path, file)]
  | (p, f) :: rest =>
    if path.same p then (p, file) :: rest
    else if path.before p then (path, file) :: (p, f) :: rest
    else (p, f) :: insertFile path file rest

def Refactoring.ofFiles (files : List (Path × ChangedFile)) : Refactoring :=
  { changedFiles := files.foldl (fun sorted file => insertFile file.1 file.2 sorted) [] }

end PythonAssist
