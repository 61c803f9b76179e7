import PythonAssist.Proofs.Schedule.LastWriteWins
import PythonAssist.Schedule.Queue

set_option autoImplicit false

namespace PythonAssist

namespace CheckQueue

open ScheduleRun

structure Follows (queue : CheckQueue) (run : ScheduleRun String String) : Prop where
  schedule : queue.schedule = run.schedule
  checks : ∀ check ∈ queue.checks, ∃ number,
    (run.begun check.uri)[number]? = some check.generation ∧ number ∉ run.ended check.uri
  published : ∀ name, name ∈ queue.published ↔
    ∃ uri number, (number, name) ∈ run.published uri

section Steps

variable {queue after : CheckQueue} {run : ScheduleRun String String}

theorem empty_follows : Follows .empty .fresh :=
  ⟨rfl, by simp [empty], by simp [empty, fresh]⟩

structure Flagged (queue after : CheckQueue) : Prop where
  schedule : after.schedule = queue.schedule
  checks : ∀ check ∈ after.checks, ∃ other ∈ queue.checks,
    other.uri = check.uri ∧ other.generation = check.generation
  published : after.published = queue.published

theorem Follows.flagged (follows : Follows queue run) (flagged : Flagged queue after) :
    Follows after run where
  schedule := flagged.schedule.trans follows.schedule
  checks check member := by
    obtain ⟨other, inQueue, sameUri, sameGeneration⟩ := flagged.checks check member
    obtain ⟨number, begun, waits⟩ := follows.checks other inQueue
    exact ⟨number, by rw [← sameUri, ← sameGeneration]; exact begun, sameUri ▸ waits⟩
  published := flagged.published ▸ follows.published

theorem Flagged.refl (queue : CheckQueue) : Flagged queue queue :=
  ⟨rfl, fun check member => ⟨check, member, rfl, rfl⟩, rfl⟩

theorem Flagged.trans {middle : CheckQueue} (first : Flagged queue middle)
    (second : Flagged middle after) : Flagged queue after where
  schedule := second.schedule.trans first.schedule
  checks check member := by
    obtain ⟨other, inMiddle, sameUri, sameGeneration⟩ := second.checks check member
    obtain ⟨origin, inQueue, uri, generation⟩ := first.checks other inMiddle
    exact ⟨origin, inQueue, uri.trans sameUri, generation.trans sameGeneration⟩
  published := second.published.trans first.published

theorem mem_change {f : QueuedCheck → QueuedCheck} {generation : Nat}
    {checks : List QueuedCheck} {check : QueuedCheck} (member : check ∈ change f generation checks)
    (keeps : ∀ check, (f check).uri = check.uri ∧ (f check).generation = check.generation) :
    ∃ other ∈ checks, other.uri = check.uri ∧ other.generation = check.generation := by
  obtain ⟨other, inChecks, rfl⟩ := List.mem_map.mp member
  refine ⟨other, inChecks, ?_⟩
  split
  next => exact ⟨(keeps other).1.symm, (keeps other).2.symm⟩
  next => exact ⟨rfl, rfl⟩

theorem drop_flagged (queue : CheckQueue) (generation : Nat) :
    Flagged queue (queue.drop generation) := by
  unfold drop
  split
  next => exact ⟨rfl, fun check member => mem_change member fun _ => ⟨rfl, rfl⟩, rfl⟩
  next => exact .refl queue

theorem dropTaskOf_flagged (queue : CheckQueue) (uri : Uri) :
    Flagged queue (queue.dropTaskOf uri) := by
  unfold dropTaskOf
  split
  next => exact .refl queue
  next => exact drop_flagged queue _

theorem foldl_dropTaskOf_flagged (uris : List Uri) (queue : CheckQueue) :
    Flagged queue (uris.foldl dropTaskOf queue) := by
  induction uris generalizing queue with
  | nil => exact .refl queue
  | cons uri rest ih => exact (dropTaskOf_flagged queue uri).trans (ih _)

theorem signal_flagged (queue : CheckQueue) (name : String) :
    Flagged queue (queue.signal name).2 := by
  unfold signal
  split
  next => exact .refl queue
  next =>
    dsimp only
    split
    next => exact ⟨rfl, fun check member => mem_change member fun _ => ⟨rfl, rfl⟩, rfl⟩
    next => exact ⟨rfl, fun check member => ⟨check, member, rfl, rfl⟩, rfl⟩

theorem ended_lt {events : List (ScheduleEvent String String)} {uri : Uri} {number : Nat}
    (member : number ∈ (ofEvents events).ended uri) :
    number < ((ofEvents events).begun uri).length := by
  have agrees := ofEvents_agrees uri events
  rw [agrees.ended] at member
  rw [agrees.begun]
  exact (CheckSlot.ofEvents_orderly uri events).begun number member

theorem addFor_keeps {items : Uri → List Nat} {uri : Uri} {number generation : Nat}
    (found : (items uri)[number]? = some generation) (other : Uri) (item : Nat) :
    (addFor other item items uri)[number]? = some generation := by
  by_cases same : uri = other
  next =>
    subst same
    rw [addFor_self]
    exact List.getElem?_append_left (List.getElem?_eq_some_iff.mp found).1 ▸ found
  next => rw [addFor_of_ne same, found]

theorem Follows.start {events : List (ScheduleEvent String String)}
    (follows : Follows queue (ofEvents events)) (uri : Uri) (name : String) :
    Follows (queue.start uri name) ((ofEvents events).advance (.start uri name)) := by
  have dropped := follows.flagged (dropTaskOf_flagged queue uri)
  refine ⟨?_, fun check member => ?_, dropped.published⟩
  · exact congrArg (fun schedule => schedule.start uri name) dropped.schedule
  · cases List.mem_append.mp member with
    | inl old =>
      obtain ⟨number, begun, waits⟩ := dropped.checks check old
      exact ⟨number, addFor_keeps begun uri _, waits⟩
    | inr new =>
      cases List.mem_singleton.mp new
      refine ⟨((ofEvents events).begun uri).length, ?_, fun ended => ?_⟩
      · rw [dropped.schedule]
        exact (congrArg (·[_]?) (addFor_self uri _ _)).trans List.getElem?_concat_length
      · exact Nat.lt_irrefl _ (ended_lt ended)

theorem Follows.cancel (follows : Follows queue run) (uri : Uri) :
    Follows (queue.cancel uri) (run.advance (.cancel uri)) := by
  have dropped := follows.flagged (dropTaskOf_flagged queue uri)
  refine ⟨?_, dropped.checks, dropped.published⟩
  exact congrArg (fun schedule => schedule.cancel uri) dropped.schedule

theorem Follows.forget (follows : Follows queue run) (uri : Uri) :
    Follows (queue.forget uri) (run.advance (.forget uri)) := by
  have dropped := follows.flagged (dropTaskOf_flagged queue uri)
  refine ⟨?_, dropped.checks, dropped.published⟩
  exact congrArg (fun schedule => schedule.forget uri) dropped.schedule

theorem Follows.cancelAll (follows : Follows queue run) :
    Follows queue.cancelAll (run.advance .cancelAll) := by
  have dropped := follows.flagged (foldl_dropTaskOf_flagged queue.schedule.tasks.keys queue)
  obtain ⟨_, begun, ended, published⟩ := foldl_cancel run.schedule.tasks.keys run
  refine ⟨?_, fun check member => ?_, fun name => ?_⟩
  · exact (congrArg Schedule.cancelAll dropped.schedule).trans (advance_cancelAll run).symm
  · have sameBegun : (run.advance .cancelAll).begun = run.begun := begun
    have sameEnded : (run.advance .cancelAll).ended = run.ended := ended
    rw [sameBegun, sameEnded]
    exact dropped.checks check member
  · have same : (run.advance .cancelAll).published = run.published := published
    rw [same]
    exact dropped.published name

theorem complete_leave {uri : Uri} {number generation : Nat}
    (begun : (run.begun uri)[number]? = some generation) (waits : number ∉ run.ended uri)
    (findings : String) :
    (run.advance (.complete uri number findings)).advance (.leave uri number) =
      { run with
        schedule := run.schedule.markFinished uri generation
        ended := addFor uri number (addFor uri number run.ended)
        published :=
          if run.schedule.isCurrent uri generation then addFor uri (number, findings) run.published
          else run.published } := by
  simp [ScheduleRun.advance, begun, waits]

theorem mem_addFor {A : Type} {uri other : Uri} {item new : A} {items : Uri → List A} :
    item ∈ addFor other new items uri ↔ item ∈ items uri ∨ uri = other ∧ item = new := by
  by_cases same : uri = other
  next =>
    subst same
    simp [addFor_self]
  next => simp [addFor_of_ne same, same]

theorem leave_flagged (queue : CheckQueue) (generation : Nat) :
    Flagged queue (queue.leave generation) :=
  ⟨rfl, fun check member => ⟨check, (List.mem_filter.mp member).1, rfl, rfl⟩, rfl⟩

theorem Follows.complete {check : QueuedCheck} (follows : Follows queue run)
    (waiting : check ∈ queue.checks) :
    ∃ number, Follows
      { queue.leave check.generation with
        schedule := queue.schedule.markFinished check.uri check.generation
        published :=
          if queue.schedule.isCurrent check.uri check.generation then
            queue.published ++ [check.name]
          else queue.published }
      ((run.advance (.complete check.uri number check.name)).advance
        (.leave check.uri number)) := by
  obtain ⟨number, begun, waits⟩ := follows.checks check waiting
  refine ⟨number, ?_⟩
  rw [complete_leave begun waits, follows.schedule]
  refine ⟨rfl, fun other member => ?_, fun name => ?_⟩
  · obtain ⟨inQueue, different⟩ := List.mem_filter.mp member
    obtain ⟨n, otherBegun, otherWaits⟩ := follows.checks other inQueue
    refine ⟨n, otherBegun, ?_⟩
    have unlike : other.uri = check.uri → n ≠ number := by
      rintro same rfl
      rw [same, begun] at otherBegun
      simp [Option.some.inj otherBegun] at different
    simp only [mem_addFor, otherWaits, false_or, not_or, not_and]
    exact ⟨unlike, unlike⟩
  · by_cases current : run.schedule.isCurrent check.uri check.generation
    next =>
      simp only [current, if_true, List.mem_append, follows.published, List.mem_singleton,
        mem_addFor, Prod.mk.injEq]
      constructor
      · rintro (⟨uri, n, old⟩ | rfl)
        · exact ⟨uri, n, .inl old⟩
        · exact ⟨check.uri, number, .inr ⟨rfl, rfl, rfl⟩⟩
      · rintro ⟨uri, n, old | ⟨rfl, rfl, same⟩⟩
        · exact .inl ⟨uri, n, old⟩
        · exact .inr same
    next => simpa [current] using follows.published name

theorem Follows.advance (follows : Follows queue run) (generation : Nat) :
    Follows (queue.advance generation) run ∨ ∃ uri number name,
      Follows (queue.advance generation)
        ((run.advance (.complete uri number name)).advance (.leave uri number)) := by
  unfold CheckQueue.advance
  split
  next => exact .inl follows
  next check found =>
    have same : check.generation = generation := by simpa using List.find?_some found
    subst same
    split
    next => exact .inl (follows.flagged (leave_flagged queue _))
    next =>
      split
      next =>
        obtain ⟨number, completed⟩ := follows.complete (List.mem_of_find?_eq_some found)
        exact .inr ⟨check.uri, number, check.name, completed⟩
      next => exact .inl follows

end Steps

inductive Call where
  | start (uri : Uri) (name : String)
  | cancel (uri : Uri)
  | forget (uri : Uri)
  | cancelAll
  | signal (name : String)
  | run

def perform (queue : CheckQueue) : Call → CheckQueue
  | .start uri name => queue.start uri name
  | .cancel uri => queue.cancel uri
  | .forget uri => queue.forget uri
  | .cancelAll => queue.cancelAll
  | .signal name => (queue.signal name).2
  | .run => queue.run

def Realized (queue : CheckQueue) : Prop :=
  ∃ events : List (ScheduleEvent String String), Follows queue (ofEvents events)

variable {queue : CheckQueue}

theorem realized_of_event {events : List (ScheduleEvent String String)}
    {event : ScheduleEvent String String}
    (follows : Follows queue ((ofEvents events).advance event)) : queue.Realized :=
  ⟨events ++ [event], by rwa [ofEvents, List.foldl_append]⟩

theorem Realized.advance (realized : queue.Realized) (generation : Nat) :
    (queue.advance generation).Realized := by
  obtain ⟨events, follows⟩ := realized
  obtain same | ⟨uri, number, name, completed⟩ := follows.advance generation
  · exact ⟨events, same⟩
  · refine ⟨events ++ [.complete uri number name, .leave uri number], ?_⟩
    rwa [ofEvents, List.foldl_append]

theorem Realized.run (realized : queue.Realized) : queue.run.Realized := by
  obtain ⟨events, follows⟩ := realized
  have emptied : Flagged queue { queue with ready := [] } :=
    ⟨rfl, fun check member => ⟨check, member, rfl, rfl⟩, rfl⟩
  have start : Realized { queue with ready := [] } := ⟨events, follows.flagged emptied⟩
  unfold CheckQueue.run
  generalize queue.ready = ready
  generalize { queue with ready := [] } = current at start ⊢
  induction ready generalizing current with
  | nil => exact start
  | cons generation rest ih => exact ih _ (start.advance generation)

theorem Realized.perform (realized : queue.Realized) (call : Call) :
    (queue.perform call).Realized := by
  have ⟨events, follows⟩ := realized
  cases call with
  | start uri name => exact realized_of_event (follows.start uri name)
  | cancel uri => exact realized_of_event (follows.cancel uri)
  | forget uri => exact realized_of_event (follows.forget uri)
  | cancelAll => exact realized_of_event follows.cancelAll
  | signal name => exact ⟨events, follows.flagged (signal_flagged queue name)⟩
  | run => exact realized.run

theorem foldl_perform_realized (calls : List Call) : (calls.foldl perform .empty).Realized := by
  have start : Realized .empty := ⟨[], empty_follows⟩
  generalize CheckQueue.empty = queue at start
  induction calls generalizing queue with
  | nil => exact start
  | cons call rest ih => exact ih _ (start.perform call)

end CheckQueue

end PythonAssist
