import Mathlib.Data.List.Induction
import Mathlib.Logic.Function.Basic
import PythonAssist.Proofs.Wire.Arrival
import PythonAssist.Worker.Link

set_option autoImplicit false

namespace PythonAssist

inductive CallStage where
  | idle
  | admitted (method : String) (params : Json)
  | numbered (request : RequestMessage)
  | registered (request : RequestMessage)
  | refused (request : RequestMessage)
  | waiting (request : RequestMessage)
  | settled (request : Option RequestMessage) (result : Except EngineError Json)

namespace CallStage

def request? : CallStage → Option RequestMessage
  | .idle | .admitted _ _ => none
  | .numbered request | .registered request | .refused request | .waiting request => some request
  | .settled request _ => request

def isPending : CallStage → Bool
  | .registered _ | .refused _ | .waiting _ => true
  | .idle | .admitted _ _ | .numbered _ | .settled _ _ => false

end CallStage

inductive TaskStage where
  | working
  | ended
  | gone
  deriving DecidableEq

-- What a caller with its one request, the writer task or the reader task does in one go. Anything
-- that the others do may come between two of them.
inductive ClientEvent where
  | ask (caller : Nat) (method : String) (params : Json)
  | number (caller : Nat)
  | register (caller : Nat)
  | send (caller : Nat)
  | refuse (caller : Nat)
  | withdraw (caller : Nat)
  | collect (caller : Nat)
  | expire (caller : Nat)
  | notify (method : String) (params : Json)
  | write
  | fail
  | stop
  | read (bytes : Bytes)
  | route (body : String)
  | finish
  | clear

namespace ClientEvent

def caller? : ClientEvent → Option Nat
  | .ask caller _ _ | .number caller | .register caller | .send caller | .refuse caller
  | .withdraw caller | .collect caller | .expire caller => some caller
  | .notify _ _ | .write | .fail | .stop | .read _ | .route _ | .finish | .clear => none

def bytes : ClientEvent → Bytes
  | .read bytes => bytes
  | _ => []

def body? : ClientEvent → Option String
  | .route body => some body
  | _ => none

def isFinish : ClientEvent → Bool
  | .finish => true
  | _ => false

def isClear : ClientEvent → Bool
  | .clear => true
  | _ => false

def isFail : ClientEvent → Bool
  | .fail => true
  | _ => false

variable (first second : List ClientEvent)

def output (events : List ClientEvent) : Bytes := events.flatMap bytes

def routed (events : List ClientEvent) : List String := events.filterMap body?

def hasFinished (events : List ClientEvent) : Bool := events.any isFinish

def hasCleared (events : List ClientEvent) : Bool := events.any isClear

def hasFailed (events : List ClientEvent) : Bool := events.any isFail

@[simp]
theorem output_append : output (first ++ second) = output first ++ output second :=
  List.flatMap_append

@[simp]
theorem routed_append : routed (first ++ second) = routed first ++ routed second :=
  List.filterMap_append

@[simp]
theorem hasCleared_append :
    hasCleared (first ++ second) = (hasCleared first || hasCleared second) :=
  List.any_append

@[simp]
theorem hasFailed_append : hasFailed (first ++ second) = (hasFailed first || hasFailed second) :=
  List.any_append

theorem routed_cons (event : ClientEvent) (rest : List ClientEvent) :
    routed (event :: rest) = event.body?.toList ++ routed rest := by
  cases found : event.body? <;> simp [routed, found]

theorem hasCleared_cons (event : ClientEvent) (rest : List ClientEvent) :
    hasCleared (event :: rest) = (event.isClear || hasCleared rest) :=
  rfl

end ClientEvent

namespace WorkerClient

open PythonAssist.Frame

def reader (client : WorkerClient) (bytes : Bytes) : Bytes × List String :=
  feed note (hasEnded fun _ => false) (client.buffer ++ bytes) []

end WorkerClient

structure Conversation where
  client : WorkerClient
  calls : Nat → CallStage
  outbound : List Bytes
  writer : TaskStage
  inbox : List String
  reader : TaskStage

namespace Conversation

open WorkerClient PythonAssist.Frame PythonAssist.ClientEvent

def start : Conversation :=
  { client := .fresh
    calls := fun _ => .idle
    outbound := []
    writer := .working
    inbox := []
    reader := .working }

def move (talk : Conversation) (client : WorkerClient) (caller : Nat) (stage : CallStage) :
    Conversation :=
  { talk with client, calls := Function.update talk.calls caller stage }

def step (talk : Conversation) : ClientEvent → Option Conversation
  | .ask caller method params =>
    match talk.calls caller with
    | .idle =>
      if talk.client.alive then some (talk.move talk.client caller (.admitted method params))
      else some (talk.move talk.client caller (.settled none (.error exited)))
    | _ => none
  | .number caller =>
    match talk.calls caller with
    | .admitted method params =>
      let (request, client) := talk.client.prepare method params
      some (talk.move client caller (.numbered request))
    | _ => none
  | .register caller =>
    match talk.calls caller with
    | .numbered request =>
      some (talk.move (talk.client.register request.id) caller (.registered request))
    | _ => none
  | .send caller =>
    match talk.calls caller with
    | .registered request =>
      if talk.writer = .gone then none
      else
        some { talk.move talk.client caller (.waiting request) with
          outbound := talk.outbound ++ [frame request] }
    | _ => none
  | .refuse caller =>
    match talk.calls caller with
    | .registered request =>
      if talk.writer = .gone then some (talk.move talk.client caller (.refused request)) else none
    | _ => none
  | .withdraw caller =>
    match talk.calls caller with
    | .refused request =>
      some (talk.move (talk.client.abandon request.id) caller
        (.settled (some request) (.error writerStopped)))
    | _ => none
  | .collect caller =>
    match talk.calls caller with
    | .waiting request =>
      (talk.client.progress request.id).map fun result =>
        talk.move (talk.client.abandon request.id) caller (.settled (some request) result)
    | _ => none
  | .expire caller =>
    match talk.calls caller with
    | .waiting request =>
      if (talk.client.progress request.id).isSome then none
      else
        some (talk.move (talk.client.abandon request.id) caller
          (.settled (some request) (.error (timedOut request.method))))
    | _ => none
  | .notify method params =>
    if talk.writer = .gone then none
    else some { talk with outbound := talk.outbound ++ [notification method params] }
  | .write =>
    match talk.writer, talk.outbound with
    | .working, _ :: queue => some { talk with outbound := queue }
    | _, _ => none
  | .fail =>
    match talk.writer, talk.outbound with
    | .working, _ :: queue =>
      some { talk with client := talk.client.lose, outbound := queue, writer := .ended }
    | _, _ => none
  | .stop =>
    match talk.writer with
    | .ended => some { talk with outbound := [], writer := .gone }
    | _ => none
  -- Nobody else sees the buffer, so the bodies of one read can be told apart in advance.
  | .read bytes =>
    match talk.reader, talk.inbox with
    | .working, [] =>
      let (buffer, inbox) := talk.client.reader bytes
      some { talk with client := talk.client.withBuffer buffer, inbox }
    | _, _ => none
  | .route body =>
    match talk.inbox with
    | next :: rest =>
      if next = body then some { talk with client := talk.client.deliver body, inbox := rest }
      else none
    | [] => none
  | .finish =>
    match talk.reader, talk.inbox with
    | .working, [] => some { talk with client := talk.client.lose, reader := .ended }
    | _, _ => none
  | .clear =>
    match talk.reader with
    | .ended => some { talk with client := talk.client.clear, reader := .gone }
    | _ => none

inductive Steps (talk : Conversation) : ClientEvent → Conversation → Prop
  | admitted {caller : Nat} {method : String} {params : Json} :
      talk.calls caller = .idle → talk.client.alive = true →
      Steps talk (.ask caller method params)
        (talk.move talk.client caller (.admitted method params))
  | dismissed {caller : Nat} {method : String} {params : Json} :
      talk.calls caller = .idle → talk.client.alive = false →
      Steps talk (.ask caller method params)
        (talk.move talk.client caller (.settled none (.error exited)))
  | numbered {caller : Nat} {method : String} {params : Json} :
      talk.calls caller = .admitted method params →
      Steps talk (.number caller)
        (talk.move (talk.client.prepare method params).2 caller
          (.numbered (talk.client.prepare method params).1))
  | registered {caller : Nat} {request : RequestMessage} :
      talk.calls caller = .numbered request →
      Steps talk (.register caller)
        (talk.move (talk.client.register request.id) caller (.registered request))
  | sent {caller : Nat} {request : RequestMessage} :
      talk.calls caller = .registered request → talk.writer ≠ .gone →
      Steps talk (.send caller)
        { talk.move talk.client caller (.waiting request) with
          outbound := talk.outbound ++ [frame request] }
  | refused {caller : Nat} {request : RequestMessage} :
      talk.calls caller = .registered request → talk.writer = .gone →
      Steps talk (.refuse caller) (talk.move talk.client caller (.refused request))
  | withdrawn {caller : Nat} {request : RequestMessage} :
      talk.calls caller = .refused request →
      Steps talk (.withdraw caller)
        (talk.move (talk.client.abandon request.id) caller
          (.settled (some request) (.error writerStopped)))
  | collected {caller : Nat} {request : RequestMessage} {result : Except EngineError Json} :
      talk.calls caller = .waiting request → talk.client.progress request.id = some result →
      Steps talk (.collect caller)
        (talk.move (talk.client.abandon request.id) caller (.settled (some request) result))
  | expired {caller : Nat} {request : RequestMessage} :
      talk.calls caller = .waiting request → talk.client.progress request.id = none →
      Steps talk (.expire caller)
        (talk.move (talk.client.abandon request.id) caller
          (.settled (some request) (.error (timedOut request.method))))
  | notified {method : String} {params : Json} :
      talk.writer ≠ .gone →
      Steps talk (.notify method params)
        { talk with outbound := talk.outbound ++ [notification method params] }
  | written {sent : Bytes} {queue : List Bytes} :
      talk.writer = .working → talk.outbound = sent :: queue →
      Steps talk .write { talk with outbound := queue }
  | failed {sent : Bytes} {queue : List Bytes} :
      talk.writer = .working → talk.outbound = sent :: queue →
      Steps talk .fail
        { talk with client := talk.client.lose, outbound := queue, writer := .ended }
  | stopped :
      talk.writer = .ended → Steps talk .stop { talk with outbound := [], writer := .gone }
  | read {bytes : Bytes} :
      talk.reader = .working → talk.inbox = [] →
      Steps talk (.read bytes)
        { talk with
          client := talk.client.withBuffer (talk.client.reader bytes).1
          inbox := (talk.client.reader bytes).2 }
  | routed {body : String} {rest : List String} :
      talk.inbox = body :: rest →
      Steps talk (.route body) { talk with client := talk.client.deliver body, inbox := rest }
  | finished :
      talk.reader = .working → talk.inbox = [] →
      Steps talk .finish { talk with client := talk.client.lose, reader := .ended }
  | cleared :
      talk.reader = .ended →
      Steps talk .clear { talk with client := talk.client.clear, reader := .gone }

variable {talk later : Conversation} {event : ClientEvent}

theorem steps_of_step (taken : talk.step event = some later) : Steps talk event later := by
  cases event with
  | ask caller method params =>
    simp only [step] at taken
    split at taken
    next idle =>
      split at taken
      next alive => cases taken; exact .admitted idle alive
      next gone => cases taken; exact .dismissed idle (by simpa using gone)
    next => cases taken
  | number caller =>
    simp only [step] at taken
    split at taken
    next admitted => cases taken; exact .numbered admitted
    next => cases taken
  | register caller =>
    simp only [step] at taken
    split at taken
    next numbered => cases taken; exact .registered numbered
    next => cases taken
  | send caller =>
    simp only [step] at taken
    split at taken
    next registered =>
      split at taken
      next => cases taken
      next opened => cases taken; exact .sent registered opened
    next => cases taken
  | refuse caller =>
    simp only [step] at taken
    split at taken
    next registered =>
      split at taken
      next gone => cases taken; exact .refused registered gone
      next => cases taken
    next => cases taken
  | withdraw caller =>
    simp only [step] at taken
    split at taken
    next refused => cases taken; exact .withdrawn refused
    next => cases taken
  | collect caller =>
    simp only [step] at taken
    split at taken
    next waiting =>
      obtain ⟨result, ready, rfl⟩ := Option.map_eq_some_iff.mp taken
      exact .collected waiting ready
    next => cases taken
  | expire caller =>
    simp only [step] at taken
    split at taken
    next waiting =>
      split at taken
      next => cases taken
      next unready => cases taken; exact .expired waiting (by simpa using unready)
    next => cases taken
  | notify method params =>
    simp only [step] at taken
    split at taken
    next => cases taken
    next opened => cases taken; exact .notified opened
  | write =>
    simp only [step] at taken
    split at taken
    next working queued => cases taken; exact .written working queued
    next => cases taken
  | fail =>
    simp only [step] at taken
    split at taken
    next working queued => cases taken; exact .failed working queued
    next => cases taken
  | stop =>
    simp only [step] at taken
    split at taken
    next ended => cases taken; exact .stopped ended
    next => cases taken
  | read bytes =>
    simp only [step] at taken
    split at taken
    next working empty => cases taken; exact .read working empty
    next => cases taken
  | route body =>
    simp only [step] at taken
    split at taken
    next next rest inbox =>
      split at taken
      next same => cases taken; exact .routed (same ▸ inbox)
      next => cases taken
    next => cases taken
  | finish =>
    simp only [step] at taken
    split at taken
    next working empty => cases taken; exact .finished working empty
    next => cases taken
  | clear =>
    simp only [step] at taken
    split at taken
    next ended => cases taken; exact .cleared ended
    next => cases taken

def follow : List ClientEvent → Conversation → Option Conversation
  | [], talk => some talk
  | event :: rest, talk => (talk.step event).bind (follow rest)

def run (events : List ClientEvent) : Option Conversation := follow events start

theorem follow_append (first second : List ClientEvent) (talk : Conversation) :
    follow (first ++ second) talk = (follow first talk).bind (follow second) := by
  induction first generalizing talk with
  | nil => rfl
  | cons event rest ih =>
    rw [List.cons_append, follow, follow, Option.bind_assoc]
    exact congrArg _ (funext ih)

@[elab_as_elim]
theorem run_induction
    {motive : (events : List ClientEvent) → (talk : Conversation) → run events = some talk → Prop}
    (first : motive [] start rfl)
    (again : ∀ events talk event later (before : run events = some talk)
      (ran : run (events ++ [event]) = some later), Steps talk event later →
      motive events talk before → motive (events ++ [event]) later ran)
    {events : List ClientEvent} {talk : Conversation} (ran : run events = some talk) :
    motive events talk ran := by
  induction events using List.reverseRecOn generalizing talk with
  | nil =>
    cases ran
    exact first
  | append_singleton events event ih =>
    have whole := ran
    rw [run, follow_append] at whole
    obtain ⟨before, earlier, last⟩ := Option.bind_eq_some_iff.mp whole
    obtain ⟨after, taken, same⟩ := Option.bind_eq_some_iff.mp last
    cases same
    exact again events before event talk earlier ran (steps_of_step taken) (ih earlier)

end Conversation

namespace WorkerClient

variable {client : WorkerClient} {id : RequestId}

def Knows (client : WorkerClient) (id : RequestId) : Prop :=
  id ∈ client.waiting ∨ (client.answers.find? id).isSome

theorem not_knows_fresh : ¬ fresh.Knows id := by
  simp [Knows, fresh, Table.find?, Table.empty, Table.lookup]

theorem knows_register {other : RequestId} :
    (client.register other).Knows id ↔ client.Knows id ∨ id = other := by
  simp [Knows, register, or_right_comm]

theorem knows_abandon {other : RequestId} :
    (client.abandon other).Knows id ↔ client.Knows id ∧ id ≠ other := by
  by_cases same : id = other <;> simp [Knows, abandon, Table.find?_erase, same]

theorem knows_settle {other : RequestId} {response : ResponseMessage}
    (knows : (client.settle other response).Knows id) : client.Knows id := by
  unfold settle at knows
  split at knows
  next waiting =>
    by_cases same : id = other
    next => exact .inl (same ▸ List.contains_iff_mem.mp waiting)
    next => simpa [Knows, Table.find?_insert, same] using knows
  next => exact knows

theorem knows_deliver {body : String} (knows : (client.deliver body).Knows id) :
    client.Knows id := by
  unfold deliver at knows
  repeat' split at knows
  · exact knows_settle knows
  all_goals exact knows

theorem knows_clear (knows : client.clear.Knows id) : client.Knows id :=
  .inr (by simpa [Knows, clear] using knows)

theorem deliver_unchanged (client : WorkerClient) (body : String) :
    (client.deliver body).next = client.next ∧ (client.deliver body).alive = client.alive ∧
      (client.deliver body).buffer = client.buffer := by
  unfold deliver settle
  repeat' split
  all_goals exact ⟨rfl, rfl, rfl⟩

end WorkerClient

namespace Conversation

open WorkerClient
open PythonAssist.ClientEvent (caller? output routed hasFinished hasCleared hasFailed)

section Calls

variable {talk later : Conversation} {event : ClientEvent} {caller : Nat}

@[simp]
theorem move_calls (client : WorkerClient) (stage : CallStage) (other : Nat) :
    (talk.move client caller stage).calls other =
      if other = caller then stage else talk.calls other :=
  Function.update_apply _ _ _ _

theorem Steps.calls_other (steps : Steps talk event later) (other : event.caller? ≠ some caller) :
    later.calls caller = talk.calls caller := by
  cases steps with
  | notified | written | failed | stopped | read | routed | finished | cleared => rfl
  | _ => exact Function.update_of_ne (fun same => other (congrArg some same.symm)) _ _

theorem Steps.request (steps : Steps talk event later) {request : RequestMessage}
    (asked : (later.calls caller).request? = some request) :
    (talk.calls caller).request? = some request ∨
      event = .number caller ∧ request.id = .number talk.client.next ∧
        later.client.next = talk.client.next + 1 := by
  by_cases own : event.caller? = some caller
  next =>
    cases steps with
    | numbered admitted =>
      obtain rfl := Option.some.inj own
      obtain rfl : _ = request := by simpa [CallStage.request?] using asked
      exact .inr ⟨rfl, rfl, rfl⟩
    | notified | written | failed | stopped | read | routed | finished | cleared => cases own
    | _ =>
      obtain rfl := Option.some.inj own
      simp_all [CallStage.request?]
  next => exact .inl (steps.calls_other own ▸ asked)

theorem Steps.next_le (steps : Steps talk event later) :
    talk.client.next ≤ later.client.next := by
  cases steps with
  | numbered => exact Nat.le_succ _
  | routed => exact (deliver_unchanged _ _).1.ge
  | _ => exact Nat.le_refl _

theorem Steps.knows (steps : Steps talk event later) {id : RequestId}
    (knows : later.client.Knows id) :
    talk.client.Knows id ∨
      ∃ caller request, event = .register caller ∧ talk.calls caller = .numbered request ∧
        id = request.id := by
  cases steps with
  | registered numbered =>
    exact (knows_register.mp knows).imp_right fun own => ⟨_, _, rfl, numbered, own⟩
  | withdrawn | collected | expired => exact .inl (knows_abandon.mp knows).1
  | routed => exact .inl (knows_deliver knows)
  | cleared => exact .inl (knows_clear knows)
  | _ => exact .inl knows

theorem Steps.pending (steps : Steps talk event later) {request : RequestMessage}
    (asked : (talk.calls caller).request? = some request)
    (pending : (talk.calls caller).isPending = true) (knows : later.client.Knows request.id) :
    (later.calls caller).isPending = true := by
  by_cases own : event.caller? = some caller
  next =>
    cases steps with
    | notified | written | failed | stopped | read | routed | finished | cleared => cases own
    | withdrawn stage | collected stage | expired stage =>
      obtain rfl := Option.some.inj own
      obtain rfl : _ = request := by simpa [stage, CallStage.request?] using asked
      exact absurd rfl (knows_abandon.mp knows).2
    | _ =>
      obtain rfl := Option.some.inj own
      simp_all [CallStage.isPending]
  next => rwa [steps.calls_other own]

end Calls

-- The ids of the callers are told apart by number, and the client knows only those of calls that
-- are pending.
structure Sound (talk : Conversation) : Prop where
  known : ∀ id, talk.client.Knows id → ∃ n : Nat, n < talk.client.next ∧ id = .number n
  issued : ∀ caller request, (talk.calls caller).request? = some request →
    ∃ n : Nat, n < talk.client.next ∧ request.id = .number n
  own : ∀ caller other request same, (talk.calls caller).request? = some request →
    (talk.calls other).request? = some same → request.id = same.id → caller = other
  held : ∀ caller request, (talk.calls caller).request? = some request →
    talk.client.Knows request.id → (talk.calls caller).isPending = true

theorem sound_start : start.Sound where
  known _ knows := absurd knows not_knows_fresh
  issued _ _ asked := nomatch asked
  own _ _ _ _ asked := nomatch asked
  held _ _ asked := nomatch asked

theorem Sound.step {talk later : Conversation} {event : ClientEvent} (sound : talk.Sound)
    (steps : Steps talk event later) : later.Sound where
  known id knows := by
    have counted : ∃ n : Nat, n < talk.client.next ∧ id = .number n := by
      rcases steps.knows knows with before | ⟨caller, request, -, stage, rfl⟩
      · exact sound.known id before
      · exact sound.issued caller request (by simp [stage, CallStage.request?])
    exact counted.imp fun n given => ⟨given.1.trans_le steps.next_le, given.2⟩
  issued caller request asked := by
    rcases steps.request asked with before | ⟨-, given, next⟩
    · obtain ⟨n, below, same⟩ := sound.issued caller request before
      exact ⟨n, below.trans_le steps.next_le, same⟩
    · exact ⟨talk.client.next, by omega, given⟩
  own caller other request same asked repeated equal := by
    have fresh {caller : Nat} {request : RequestMessage}
        (before : (talk.calls caller).request? = some request) :
        request.id ≠ .number talk.client.next := by
      obtain ⟨n, below, given⟩ := sound.issued caller request before
      rintro taken
      have clash : n = talk.client.next :=
        Int.ofNat.inj (RequestId.number.inj (given.symm.trans taken))
      omega
    rcases steps.request asked with before | ⟨first, given, -⟩ <;>
      rcases steps.request repeated with also | ⟨second, given', -⟩
    · exact sound.own caller other request same before also equal
    · exact absurd (equal.trans given') (fresh before)
    · exact absurd (equal.symm.trans given) (fresh also)
    · exact ClientEvent.number.inj (first.symm.trans second)
  held caller request asked knows := by
    rcases steps.knows knows with before | ⟨other, same, rfl, stage, equal⟩
    · rcases steps.request asked with already | ⟨rfl, given, -⟩
      · exact steps.pending already (sound.held caller request already before) knows
      -- A number that is given out now is one that the client does not know yet.
      · obtain ⟨n, below, same⟩ := sound.known _ before
        have clash : talk.client.next = n :=
          Int.ofNat.inj (RequestId.number.inj (given.symm.trans same))
        omega
    · have owner : (talk.calls other).request? = some same := by simp [stage, CallStage.request?]
      rcases steps.request asked with already | ⟨numbered, -, -⟩
      · obtain rfl := sound.own caller other request same already owner equal
        cases steps with
        | registered => simp [CallStage.isPending]
      · cases numbered

theorem run_sound {events : List ClientEvent} {talk : Conversation}
    (ran : run events = some talk) : talk.Sound := by
  induction ran using run_induction with
  | first => exact sound_start
  | again events talk event later before ran steps ih => exact ih.step steps

structure Marks (events : List ClientEvent) (talk : Conversation) : Prop where
  finished : hasFinished events = true ↔ talk.reader ≠ .working
  cleared : hasCleared events = true ↔ talk.reader = .gone
  failed : hasFailed events = true ↔ talk.writer ≠ .working
  alive : talk.client.alive = !(hasFinished events || hasFailed events)
  drained : talk.reader ≠ .working → talk.inbox = []

section Marks

variable {events : List ClientEvent} {talk later : Conversation} {event : ClientEvent}

theorem Marks.frame (marks : Marks events talk)
    (other : event.isFinish = false ∧ event.isClear = false ∧ event.isFail = false)
    (reader : later.reader = talk.reader) (writer : later.writer = talk.writer)
    (alive : later.client.alive = talk.client.alive)
    (drained : talk.reader ≠ .working → later.inbox = []) : Marks (events ++ [event]) later where
  finished := by simpa [hasFinished, other.1, reader] using marks.finished
  cleared := by simpa [hasCleared, other.2.1, reader] using marks.cleared
  failed := by simpa [hasFailed, other.2.2, writer] using marks.failed
  alive := by simpa [hasFinished, hasFailed, other.1, other.2.2, alive] using marks.alive
  drained := reader ▸ drained

theorem Marks.step (marks : Marks events talk) (steps : Steps talk event later) :
    Marks (events ++ [event]) later := by
  cases steps with
  | finished working empty =>
    refine ⟨?_, ?_, ?_, ?_, fun _ => empty⟩
    · simp [hasFinished, ClientEvent.isFinish]
    · simpa [hasCleared, ClientEvent.isClear, working] using marks.cleared
    · simpa [hasFailed, ClientEvent.isFail] using marks.failed
    · simp [hasFinished, ClientEvent.isFinish, lose]
  | cleared ended =>
    have past : talk.reader ≠ .working := by simp [ended]
    refine ⟨?_, ?_, ?_, ?_, fun _ => marks.drained past⟩
    · simpa [hasFinished, ClientEvent.isFinish, ended] using marks.finished
    · simp [hasCleared, ClientEvent.isClear]
    · simpa [hasFailed, ClientEvent.isFail] using marks.failed
    · simpa [hasFinished, hasFailed, ClientEvent.isFinish, ClientEvent.isFail, WorkerClient.clear]
        using marks.alive
  | failed =>
    refine ⟨?_, ?_, ?_, ?_, marks.drained⟩
    · simpa [hasFinished, ClientEvent.isFinish] using marks.finished
    · simpa [hasCleared, ClientEvent.isClear] using marks.cleared
    · simp [hasFailed, ClientEvent.isFail]
    · simp [hasFailed, ClientEvent.isFail, lose]
  | stopped ended =>
    refine ⟨?_, ?_, ?_, ?_, marks.drained⟩
    · simpa [hasFinished, ClientEvent.isFinish] using marks.finished
    · simpa [hasCleared, ClientEvent.isClear] using marks.cleared
    · simpa [hasFailed, ClientEvent.isFail, ended] using marks.failed
    · simpa [hasFinished, hasFailed, ClientEvent.isFinish, ClientEvent.isFail] using marks.alive
  | read working =>
    exact marks.frame ⟨rfl, rfl, rfl⟩ rfl rfl rfl fun past => absurd working past
  | routed inbox =>
    exact marks.frame ⟨rfl, rfl, rfl⟩ rfl rfl (deliver_unchanged _ _).2.1 fun past => by
      simp [marks.drained past] at inbox
  | _ => exact marks.frame ⟨rfl, rfl, rfl⟩ rfl rfl rfl marks.drained

end Marks

theorem run_marks {events : List ClientEvent} {talk : Conversation}
    (ran : run events = some talk) : Marks events talk := by
  induction ran using run_induction with
  | first => constructor <;> simp [start, hasFinished, hasCleared, hasFailed, fresh]
  | again events talk event later before ran steps ih => exact ih.step steps

end Conversation

end PythonAssist
