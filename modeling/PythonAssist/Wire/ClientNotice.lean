import PythonAssist.Diagnostic
import PythonAssist.Uri.Reference
import PythonAssist.Wire.Message

set_option autoImplicit false

namespace PythonAssist

inductive MessageKind where
  | error
  | warning
  deriving DecidableEq, Repr

inductive ClientNotice where
  | publishDiagnostics (uri : Uri) (diagnostics : List Diagnostic) (version : Int)
  | showMessage (kind : MessageKind) (text : String)
  deriving DecidableEq, Repr

namespace ClientNotice

def kindNumber : MessageKind → Nat
  | .error => 1
  | .warning => 2

def toMessage : ClientNotice → NotificationMessage
  | .publishDiagnostics uri diagnostics version =>
    .make "textDocument/publishDiagnostics"
      (.object [("diagnostics", .list Diagnostic.toJson diagnostics), ("uri", .string uri.text),
        ("version", .integer version)])
  | .showMessage kind text =>
    .make "window/showMessage"
      (.object [("message", .string text), ("type", .nat (kindNumber kind))])

end ClientNotice

end PythonAssist
