import PythonAssist.Schedule

set_option autoImplicit false

namespace PythonAssist

structure QueuedCheck where
  uri : Uri
  name : String
  generation : Nat
  signalled : Bool
  dropped : Bool
  deriving DecidableEq, Repr

structure CheckQueue where
  schedule : Schedule String
  checks : List QueuedCheck
  ready : List Nat
  signals : Table String Nat
  published : List String

namespace CheckQueue

def empty : CheckQueue :=
  { schedule := .empty, checks := [], ready := [], signals := .empty, published := [] }

def wake (ready : List Nat) (generation : Nat) : List Nat :=
  if ready.contains generation then ready else ready ++ [generation]

def change (f : QueuedCheck → QueuedCheck) (generation : Nat) (checks : List QueuedCheck) :
    List QueuedCheck :=
  checks.map fun check => if check.generation = generation then f check else check

-- A dropped check leaves the queue when the queue runs the next time.
def drop (queue : CheckQueue) (generation : Nat) : CheckQueue :=
  if queue.checks.any fun check => check.generation == generation then
    { queue with
      checks := change (fun check => { check with dropped := true }) generation queue.checks
      ready := wake queue.ready generation }
  else queue

def dropTaskOf (queue : CheckQueue) (uri : Uri) : CheckQueue :=
  match queue.schedule.tasks.find? uri with
  | none => queue
  | some task => queue.drop task.generation

def start (queue : CheckQueue) (uri : Uri) (name : String) : CheckQueue :=
  let queue := queue.dropTaskOf uri
  let schedule := queue.schedule.start uri name
  let generation := schedule.last
  { queue with
    schedule
    checks := queue.checks ++ [{ uri, name, generation, signalled := false, dropped := false }]
    ready := queue.ready ++ [generation]
    signals := queue.signals.insert name generation }

def cancel (queue : CheckQueue) (uri : Uri) : CheckQueue :=
  let queue := queue.dropTaskOf uri
  { queue with schedule := queue.schedule.cancel uri }

def forget (queue : CheckQueue) (uri : Uri) : CheckQueue :=
  let queue := queue.dropTaskOf uri
  { queue with schedule := queue.schedule.forget uri }

def cancelAll (queue : CheckQueue) : CheckQueue :=
  let queue := queue.schedule.tasks.keys.foldl dropTaskOf queue
  { queue with schedule := queue.schedule.cancelAll }

def signal (queue : CheckQueue) (name : String) : Option Bool × CheckQueue :=
  match queue.signals.find? name with
  | none => (none, queue)
  | some generation =>
    let rest := { queue with signals := queue.signals.erase name }
    if queue.checks.any fun check => check.generation == generation then
      (some true,
        { rest with
          checks := change (fun check => { check with signalled := true }) generation queue.checks
          ready := wake queue.ready generation })
    else (some false, rest)

def leave (queue : CheckQueue) (generation : Nat) : CheckQueue :=
  { queue with checks := queue.checks.filter fun check => check.generation != generation }

def advance (queue : CheckQueue) (generation : Nat) : CheckQueue :=
  match queue.checks.find? fun check => check.generation == generation with
  | none => queue
  | some check =>
    if check.dropped then queue.leave generation
    else if check.signalled then
      { queue.leave generation with
        schedule := queue.schedule.markFinished check.uri generation
        published :=
          if queue.schedule.isCurrent check.uri generation then queue.published ++ [check.name]
          else queue.published }
    else queue

def run (queue : CheckQueue) : CheckQueue :=
  queue.ready.foldl advance { queue with ready := [] }

end CheckQueue

end PythonAssist
