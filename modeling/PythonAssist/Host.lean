import PythonAssist.Disk

set_option autoImplicit false

namespace PythonAssist

inductive CheckerRun where
  | notStarted (reason : String)
  | finished (stdout stderr : Bytes)
  deriving DecidableEq, Repr

structure Host where
  disk : Disk
  envVariables : List (String × String)
  check : String → List Path → CheckerRun

namespace Host

def valueOf? (host : Host) (name : String) : Option String :=
  (host.envVariables.find? fun entry => entry.1 = name).map Prod.snd

def home? (host : Host) : Option Path :=
  match host.valueOf? "HOME" with
  | some home => if home.isEmpty then none else some (.ofString home)
  | none => none

def configDirectory? (host : Host) : Option Path :=
  match (host.valueOf? "XDG_CONFIG_HOME").map Path.ofString with
  | some path =>
    if path.isAbsolute then some path else host.home?.map fun home => home.join ".config"
  | none => host.home?.map fun home => home.join ".config"

end Host

end PythonAssist
