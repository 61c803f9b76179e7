import PythonAssist.Session.State

set_option autoImplicit false

namespace PythonAssist

namespace Session

variable {W : Type}

def endCheck (session : Session W) (uri : Uri) (generation : Nat) (pending : PendingCheck)
    (run : CheckerRun) : Session W :=
  let (findings, complaints) := pending.check.outcome run
  let published :=
    if session.checks.isCurrent uri generation then
      [ClientNotice.publishDiagnostics uri (pending.base ++ findings) pending.version]
    else []
  { session with
    checks := session.checks.markFinished uri generation
    notices := session.notices ++ complaints ++ published }

def runTask (host : Host) (session : Session W) (entry : Uri × Task PendingCheck) : Session W :=
  let pending := entry.2.job
  session.endCheck entry.1 entry.2.generation pending
    (host.check pending.check.python pending.check.arguments)

def settle (host : Host) (session : Session W) : Session W :=
  session.checks.running.foldl (runTask host) session

def underWay (session : Session W) : List TypeCheck :=
  session.checks.running.map fun entry => entry.2.job.check

end Session

end PythonAssist
