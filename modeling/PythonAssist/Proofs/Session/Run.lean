import PythonAssist.Session

set_option autoImplicit false

namespace PythonAssist

variable {W S A : Type}

inductive EditorMessage where
  | query (query : Query)
  | notice (notice : Notice)
  | shutdown

def Query.uri : Query → Uri
  | .completion place => place.uri
  | .hover place => place.uri
  | .signatureHelp place => place.uri
  | .definition place => place.uri
  | .references place => place.uri
  | .documentSymbol uri => uri
  | .codeAction uri _ => uri

def Outcome.discard (outcome : Outcome S A) : Outcome S Unit :=
  { result := outcome.result.map fun _ => (), notices := outcome.notices, state := outcome.state }

def Handler.deliver (handler : Handler S) (message : EditorMessage) (state : S) : Outcome S Unit :=
  match message with
  | .query query => (handler.answer query state).discard
  | .notice notice => handler.receive notice state
  | .shutdown => handler.shutdown state

structure Flight where
  uri : Uri
  generation : Nat
  pending : PendingCheck
  deriving DecidableEq

structure Situation (W : Type) where
  session : Session W
  flights : List Flight

inductive SessionEvent where
  | message (host : Host) (message : EditorMessage)
  | ended (flight : Flight) (run : CheckerRun)

namespace Situation

-- The checks that a message began. One that it began and dropped again can never be current.
def launched (last : Nat) (checks : Schedule PendingCheck) : List Flight :=
  checks.tasks.entries.filterMap fun (uri, task) =>
    if last < task.generation then
      some { uri, generation := task.generation, pending := task.job }
    else none

def advance (launcher : Launcher W) (situation : Situation W) :
    SessionEvent → Outcome (Situation W) Unit
  | .message host message =>
    let outcome := (Session.handler { launcher, host }).deliver message situation.session
    { result := outcome.result
      notices := outcome.notices
      state :=
        { session := outcome.state
          flights :=
            situation.flights ++ launched situation.session.checks.last outcome.state.checks } }
  | .ended flight run =>
    if flight ∈ situation.flights then
      let session :=
        situation.session.endCheck flight.uri flight.generation flight.pending run
      { result := .ok ()
        notices := session.notices
        state :=
          { session := { session with notices := [] }
            flights := situation.flights.erase flight } }
    else { result := .ok (), notices := [], state := situation }

def run (launcher : Launcher W) (situation : Situation W) (events : List SessionEvent) :
    Situation W :=
  events.foldl (fun situation event => (situation.advance launcher event).state) situation

end Situation

namespace Session

inductive Waiting (launcher : Launcher W) : Session W → Prop
  | created (python : String) (settings : Settings) (world : W) :
      Waiting launcher (.create python settings world)
  | refused (host : Host) (params : InitializeParams) (session : Session W) (reason : String) :
      Waiting launcher session →
      ((handler { launcher, host }).connect params session).result = .error reason →
      Waiting launcher ((handler { launcher, host }).connect params session).state

end Session

inductive Reachable (launcher : Launcher W) : Situation W → Prop
  | connected (host : Host) (params : InitializeParams) (session : Session W) (answer : Json) :
      Session.Waiting launcher session →
      ((Session.handler { launcher, host }).connect params session).result = .ok answer →
      Reachable launcher
        { session := ((Session.handler { launcher, host }).connect params session).state
          flights := [] }
  | advanced (situation : Situation W) (event : SessionEvent) :
      Reachable launcher situation → Reachable launcher (situation.advance launcher event).state

theorem Reachable.run {launcher : Launcher W} {situation : Situation W}
    (reachable : Reachable launcher situation) (events : List SessionEvent) :
    Reachable launcher (situation.run launcher events) := by
  induction events generalizing situation with
  | nil => exact reachable
  | cons event rest ih => exact ih (.advanced situation event reachable)

end PythonAssist
