import PythonAssist.Text.Split
import PythonAssist.Uri.FilePath

set_option autoImplicit false

namespace PythonAssist

structure WorkspaceFolder where
  uri : Uri
  name : String
  deriving DecidableEq, Repr

structure WorkspaceOffer where
  rootUri : Option Uri
  rootPath : Option String
  folders : List WorkspaceFolder
  deriving DecidableEq, Repr

structure FoldersChange where
  added : List WorkspaceFolder
  removed : List WorkspaceFolder
  deriving DecidableEq, Repr

structure Workspace where
  root : Option Path
  folders : List WorkspaceFolder
  deriving DecidableEq, Repr

namespace Workspace

def empty : Workspace := { root := none, folders := [] }

def ofOffer (offer : WorkspaceOffer) : Workspace :=
  let first := offer.folders.head?.bind fun folder => folder.uri.toPath
  { root := ((offer.rootUri.bind Uri.toPath).or (offer.rootPath.map Path.ofString)).or first
    folders := offer.folders }

def addFolder (folders : List WorkspaceFolder) (folder : WorkspaceFolder) :
    List WorkspaceFolder :=
  if folders.any fun known => known.uri == folder.uri then folders else folders ++ [folder]

def apply (workspace : Workspace) (change : FoldersChange) : Workspace :=
  let kept := workspace.folders.filter fun folder =>
    !change.removed.any fun removed => removed.uri == folder.uri
  { workspace with folders := change.added.foldl addFolder kept }

def endsWithSlash (text : List Char) : Bool := text.getLast? == some '/'

def holds (folder document : List Char) : Bool :=
  match stripFront folder document with
  | none => false
  | some rest => rest.isEmpty || rest.head? == some '/' || endsWithSlash folder

def deepest : List WorkspaceFolder → Option WorkspaceFolder
  | [] => none
  | folder :: rest =>
    match deepest rest with
    | none => some folder
    | some other =>
      if other.uri.text.utf8ByteSize < folder.uri.text.utf8ByteSize then some folder
      else some other

def folderOf (workspace : Workspace) (document : Uri) : Option WorkspaceFolder :=
  deepest (workspace.folders.filter fun folder =>
    holds folder.uri.text.toList document.text.toList)

def folderPathFor (workspace : Workspace) (document : Uri) : Option Path :=
  ((workspace.folderOf document).bind fun folder => folder.uri.toPath).or workspace.root

end Workspace

end PythonAssist
