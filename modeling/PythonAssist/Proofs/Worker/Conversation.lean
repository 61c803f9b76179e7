import PythonAssist.Proofs.Worker.Link

set_option autoImplicit false

namespace PythonAssist

namespace WorkerClient

def answerTo (id : RequestId) (body : String) : Option ResponseMessage :=
  match Incoming.classify body with
  | .ok (.response response) => if response.id = some id then some response else none
  | _ => none

inductive Stands (client : WorkerClient) (id : RequestId) : Option (Except EngineError Json) → Prop
  | waits : id ∈ client.waiting → client.answers.find? id = none → Stands client id none
  | answered (response : ResponseMessage) : id ∉ client.waiting →
      client.answers.find? id = some response → Stands client id (some (resultOf response))
  | dropped : id ∉ client.waiting → client.answers.find? id = none →
      Stands client id (some (.error closed))

namespace Stands

variable {client : WorkerClient} {id : RequestId} {state : Option (Except EngineError Json)}

theorem progress_eq (stands : Stands client id state) : client.progress id = state := by
  cases stands with
  | waits waiting empty => simp [progress, empty, waiting]
  | answered response _ found => simp [progress, found]
  | dropped gone empty => simp [progress, empty, gone]

theorem congr {other : WorkerClient} (stands : Stands client id state)
    (waiting : id ∈ other.waiting ↔ id ∈ client.waiting)
    (answers : other.answers.find? id = client.answers.find? id) : Stands other id state := by
  cases stands with
  | waits inside empty => exact .waits (waiting.mpr inside) (answers.trans empty)
  | answered response gone found =>
    exact .answered response (fun inside => gone (waiting.mp inside)) (answers.trans found)
  | dropped gone empty =>
    exact .dropped (fun inside => gone (waiting.mp inside)) (answers.trans empty)

theorem settle (stands : Stands client id state) (response : ResponseMessage) :
    Stands (client.settle id response) id (state.or (some (resultOf response))) := by
  unfold WorkerClient.settle
  cases stands with
  | waits waiting empty =>
    rw [if_pos (List.contains_iff_mem.mpr waiting)]
    exact .answered response (by simp) (by simp [Table.find?_insert])
  | answered earlier gone found =>
    rw [if_neg (by simpa using gone)]
    exact .answered earlier gone found
  | dropped gone empty =>
    rw [if_neg (by simpa using gone)]
    exact .dropped gone empty

theorem settle_other (stands : Stands client id state) {other : RequestId} (different : id ≠ other)
    (response : ResponseMessage) : Stands (client.settle other response) id state := by
  unfold WorkerClient.settle
  split
  next => exact stands.congr (by simp [different]) (by simp [Table.find?_insert, different])
  next => exact stands

theorem deliver (stands : Stands client id state) (body : String) :
    Stands (client.deliver body) id (state.or ((answerTo id body).map resultOf)) := by
  unfold WorkerClient.deliver answerTo
  cases Incoming.classify body with
  | error _ => simpa using stands
  | ok incoming =>
    cases incoming with
    | request _ | notification _ => simpa using stands
    | response response =>
      cases responds : response.id with
      | none => simpa [responds] using stands
      | some other =>
        by_cases same : other = id
        next =>
          subst same
          simpa [responds] using stands.settle response
        next => simpa [responds, same] using stands.settle_other (Ne.symm same) response

theorem clear (stands : Stands client id state) :
    Stands client.clear id (state.or (some (.error closed))) := by
  cases stands with
  | waits waiting empty => exact .dropped (by simp [WorkerClient.clear]) empty
  | answered response gone found => exact .answered response (by simp [WorkerClient.clear]) found
  | dropped gone empty => exact .dropped (by simp [WorkerClient.clear]) empty

theorem abandon_other (stands : Stands client id state) {other : RequestId}
    (different : id ≠ other) : Stands (client.abandon other) id state :=
  stands.congr (by simp [abandon, different]) (by simp [abandon, Table.find?_erase, different])

theorem register_other (stands : Stands client id state) {other : RequestId}
    (different : id ≠ other) : Stands (client.register other) id state :=
  stands.congr (by simp [register, different]) rfl

end Stands

theorem stands_register {client : WorkerClient} {id : RequestId} (unknown : ¬ client.Knows id) :
    Stands (client.register id) id none := by
  refine .waits (by simp [register]) ?_
  by_contra found
  exact unknown (.inr (Option.isSome_iff_ne_none.mpr found))

def ending (id : RequestId) (heard : List String) (gone : Bool) :
    Option (Except EngineError Json) :=
  match heard.findSome? (answerTo id) with
  | some response => some (resultOf response)
  | none => if gone then some (.error (.unavailable "worker closed connection")) else none

end WorkerClient

namespace Conversation

open WorkerClient PythonAssist.Frame
open PythonAssist.ClientEvent (caller? output routed hasFinished hasCleared hasFailed)

-- How a request has ended for its caller, who may not have noticed yet.
def fate (talk : Conversation) (caller : Nat) : Option (Except EngineError Json) :=
  match talk.calls caller with
  | .waiting request => talk.client.progress request.id
  | .settled _ result => some result
  | _ => none

def verdict (id : RequestId) : ClientEvent → Option (Except EngineError Json)
  | .route body => (answerTo id body).map resultOf
  | .clear => some (.error closed)
  | _ => none

variable {talk later : Conversation} {event : ClientEvent} {caller : Nat}

theorem Steps.stands (steps : Steps talk event later) {id : RequestId}
    {state : Option (Except EngineError Json)} (stands : Stands talk.client id state)
    (foreign : ∀ other request, event.caller? = some other →
      (talk.calls other).request? = some request → id ≠ request.id) :
    Stands later.client id (state.or (verdict id event)) := by
  have unmoved (silent : verdict id event = none) (same : Stands later.client id state) :
      Stands later.client id (state.or (verdict id event)) := by
    rwa [silent, Option.or_none]
  have own {caller : Nat} {request : RequestMessage} {stage : CallStage}
      (at' : talk.calls caller = stage) (asked : stage.request? = some request)
      (by' : event.caller? = some caller) : id ≠ request.id :=
    foreign caller request by' (at' ▸ asked)
  cases steps with
  | routed => exact stands.deliver _
  | cleared => exact stands.clear
  | registered stage => exact unmoved rfl (stands.register_other (own stage rfl rfl))
  | withdrawn stage | collected stage | expired stage =>
    exact unmoved rfl (stands.abandon_other (own stage rfl rfl))
  | _ => exact unmoved rfl (stands.congr Iff.rfl rfl)

inductive Fares (talk : Conversation) (caller : Nat) (request : RequestMessage)
    (since : List ClientEvent) : Prop
  | registered : talk.calls caller = .registered request → .send caller ∉ since →
      Stands talk.client request.id (since.findSome? (verdict request.id)) →
      Fares talk caller request since
  | refused : talk.calls caller = .refused request → .send caller ∉ since →
      Fares talk caller request since
  | withdrawn : talk.calls caller = .settled (some request) (.error writerStopped) →
      .send caller ∉ since → Fares talk caller request since
  | waiting : talk.calls caller = .waiting request →
      Stands talk.client request.id (since.findSome? (verdict request.id)) →
      Fares talk caller request since
  | collected {result : Except EngineError Json} :
      talk.calls caller = .settled (some request) result →
      since.findSome? (verdict request.id) = some result → Fares talk caller request since
  | expired {result : Except EngineError Json} :
      talk.calls caller = .settled (some request) result → .expire caller ∈ since →
      Fares talk caller request since

namespace Fares

variable {request : RequestMessage} {since : List ClientEvent}

theorem request_eq (fares : Fares talk caller request since) :
    (talk.calls caller).request? = some request := by
  cases fares <;> simp [*, CallStage.request?]

theorem fate_eq (fares : Fares talk caller request since) (sent : .send caller ∈ since)
    (lasting : .expire caller ∉ since) :
    talk.fate caller = since.findSome? (verdict request.id) := by
  cases fares with
  | registered _ unsent | refused _ unsent | withdrawn _ unsent => exact absurd sent unsent
  | waiting stage stands => simpa [fate, stage] using stands.progress_eq
  | collected stage same => simp [fate, stage, same]
  | expired _ gone => exact absurd gone lasting

theorem of_registered (fares : Fares talk caller request since) {same : RequestMessage}
    (stage : talk.calls caller = .registered same) :
    same = request ∧ .send caller ∉ since ∧
      Stands talk.client request.id (since.findSome? (verdict request.id)) := by
  cases fares <;> simp_all

theorem of_refused (fares : Fares talk caller request since) {same : RequestMessage}
    (stage : talk.calls caller = .refused same) : same = request ∧ .send caller ∉ since := by
  cases fares <;> simp_all

theorem of_waiting (fares : Fares talk caller request since) {same : RequestMessage}
    (stage : talk.calls caller = .waiting same) :
    same = request ∧ Stands talk.client request.id (since.findSome? (verdict request.id)) := by
  cases fares <;> simp_all

theorem findSome_snoc (id : RequestId) (since : List ClientEvent) (event : ClientEvent) :
    (since ++ [event]).findSome? (verdict id) =
      (since.findSome? (verdict id)).or (verdict id event) := by
  rw [List.findSome?_append, List.findSome?_singleton]

theorem step (fares : Fares talk caller request since) (sound : talk.Sound)
    (steps : Steps talk event later) : Fares later caller request (since ++ [event]) := by
  have quiet (silent : verdict request.id event = none) :
      (since ++ [event]).findSome? (verdict request.id) =
        since.findSome? (verdict request.id) := by
    rw [findSome_snoc, silent, Option.or_none]
  by_cases own : event.caller? = some caller
  next =>
    cases steps with
    | notified | written | failed | stopped | read | routed | finished | cleared => cases own
    | admitted | dismissed | numbered | registered =>
      obtain rfl := Option.some.inj own
      cases fares <;> simp_all
    | sent stage =>
      obtain rfl := Option.some.inj own
      obtain ⟨rfl, -, stands⟩ := fares.of_registered stage
      exact .waiting (Function.update_self ..) (quiet rfl ▸ stands)
    | refused stage =>
      obtain rfl := Option.some.inj own
      obtain ⟨rfl, unsent, -⟩ := fares.of_registered stage
      exact .refused (Function.update_self ..) (by simp [unsent])
    | withdrawn stage =>
      obtain rfl := Option.some.inj own
      obtain ⟨rfl, unsent⟩ := fares.of_refused stage
      exact .withdrawn (Function.update_self ..) (by simp [unsent])
    | collected stage ready =>
      obtain rfl := Option.some.inj own
      obtain ⟨rfl, stands⟩ := fares.of_waiting stage
      refine .collected (Function.update_self ..) ?_
      rw [quiet rfl, ← stands.progress_eq, ready]
    | expired stage =>
      obtain rfl := Option.some.inj own
      obtain ⟨rfl, -⟩ := fares.of_waiting stage
      exact .expired (Function.update_self ..) (by simp)
  next =>
    -- Whoever else registers or gives up an entry does so under an id of its own.
    have foreign (other : Nat) (same : RequestMessage) (by' : event.caller? = some other)
        (asked : (talk.calls other).request? = some same) : request.id ≠ same.id := by
      intro equal
      exact own (sound.own caller other request same fares.request_eq asked equal ▸ by')
    have stage := steps.calls_other own
    have unsent (before : .send caller ∉ since) : .send caller ∉ since ++ [event] := by
      simp only [List.mem_append, List.mem_singleton, not_or]
      exact ⟨before, fun same => own (same ▸ rfl)⟩
    cases fares with
    | registered at' before stands =>
      exact .registered (stage.trans at') (unsent before)
        (findSome_snoc .. ▸ steps.stands stands foreign)
    | refused at' before => exact .refused (stage.trans at') (unsent before)
    | withdrawn at' before => exact .withdrawn (stage.trans at') (unsent before)
    | waiting at' stands =>
      exact .waiting (stage.trans at') (findSome_snoc .. ▸ steps.stands stands foreign)
    | collected at' same => exact .collected (stage.trans at') (by rw [findSome_snoc, same]; rfl)
    | expired at' gone => exact .expired (stage.trans at') (List.mem_append_left _ gone)

end Fares

section Run

variable {events : List ClientEvent}

theorem run_fares (ran : run events = some talk) {before since : List ClientEvent}
    (cut : events = before ++ .register caller :: since) :
    ∃ request, Fares talk caller request since := by
  induction ran using run_induction generalizing since with
  | first => simp at cut
  | again events talk event later earlier ran steps ih =>
    rcases snoc_cut cut with ⟨-, rfl, rfl⟩ | ⟨front, inner, rfl⟩
    next =>
      cases steps with
      | registered stage =>
        have unknown : ¬ talk.client.Knows _ := fun knows => by
          have pending :=
            (run_sound earlier).held caller _ (congrArg CallStage.request? stage) knows
          simp [stage, CallStage.isPending] at pending
        exact ⟨_, .registered (Function.update_self ..) (by simp) (stands_register unknown)⟩
    next => exact (ih inner).imp fun _ fares => fares.step (run_sound earlier) steps

theorem run_silent (ran : run events = some talk) {front back : List ClientEvent}
    (cut : events = front ++ .clear :: back) : routed back = [] ∧ hasCleared back = false := by
  induction ran using run_induction generalizing back with
  | first => simp at cut
  | again events talk event later earlier ran steps ih =>
    rcases snoc_cut cut with ⟨-, rfl, rfl⟩ | ⟨back, rfl, rfl⟩
    next => exact ⟨rfl, rfl⟩
    next =>
      obtain ⟨silent, once⟩ := ih rfl
      have marks := run_marks earlier
      have gone := marks.cleared.mp (by simp [hasCleared, ClientEvent.isClear])
      have drained := marks.drained (by simp [gone])
      rw [ClientEvent.routed_append, ClientEvent.hasCleared_append, silent, once]
      cases steps with
      | routed inbox => simp [drained] at inbox
      | cleared ended => simp [gone] at ended
      | _ => exact ⟨rfl, rfl⟩

theorem ending_append (id : RequestId) (first second : List String) (gone : Bool) :
    ending id (first ++ second) gone =
      ((first.findSome? (answerTo id)).map resultOf).or (ending id second gone) := by
  unfold ending
  rw [List.findSome?_append]
  cases first.findSome? (answerTo id) <;> rfl

theorem run_late {before rest : List ClientEvent} (ran : run (before ++ rest) = some talk)
    (cleared : hasCleared before = true) : routed rest = [] ∧ hasCleared rest = false := by
  obtain ⟨event, member, isClear⟩ := List.any_eq_true.mp cleared
  obtain ⟨front, back, rfl⟩ := List.append_of_mem member
  cases event with
  | clear =>
    have cut : front ++ .clear :: back ++ rest = front ++ .clear :: (back ++ rest) := by simp
    obtain ⟨silent, once⟩ := run_silent ran cut
    rw [ClientEvent.routed_append, List.append_eq_nil_iff] at silent
    rw [ClientEvent.hasCleared_append, Bool.or_eq_false_iff] at once
    exact ⟨silent.2, once.2⟩
  | _ => cases isClear

theorem findSome_verdict {since : List ClientEvent} (id : RequestId)
    (silent : ∀ front back, since = front ++ .clear :: back → routed back = []) :
    since.findSome? (verdict id) = ending id (routed since) (hasCleared since) := by
  induction since with
  | nil => rfl
  | cons event rest ih =>
    have later := ih fun front back cut => silent (event :: front) back (cut ▸ rfl)
    cases event with
    | route body =>
      have heard : routed (.route body :: rest) = body :: routed rest := rfl
      have cleared : hasCleared (.route body :: rest) = hasCleared rest := rfl
      rw [List.findSome?_cons, verdict, later, heard, cleared, ending, ending, List.findSome?_cons]
      cases answerTo id body <;> rfl
    | clear =>
      have heard : routed (.clear :: rest) = [] := silent [] rest rfl
      rw [heard]
      rfl
    | _ => exact later

theorem Steps.settled (steps : Steps talk event later) {request : Option RequestMessage}
    {result : Except EngineError Json} (stage : talk.calls caller = .settled request result) :
    later.calls caller = .settled request result := by
  by_cases own : event.caller? = some caller
  next =>
    cases steps with
    | notified | written | failed | stopped | read | routed | finished | cleared => cases own
    | _ =>
      obtain rfl := Option.some.inj own
      simp_all
  next => exact (steps.calls_other own).trans stage

theorem run_dismissed (ran : run events = some talk) {earlier rest : List ClientEvent}
    {method : String} {params : Json} (cut : events = earlier ++ .ask caller method params :: rest)
    (gone : (hasFinished earlier || hasFailed earlier) = true) :
    talk.calls caller = .settled none (.error exited) := by
  induction ran using run_induction generalizing rest with
  | first => simp at cut
  | again events talk event later before ran steps ih =>
    rcases snoc_cut cut with ⟨rfl, rfl, rfl⟩ | ⟨front, inner, rfl⟩
    next =>
      have dead := (run_marks before).alive
      rw [gone] at dead
      cases steps with
      | admitted _ alive => simp [alive] at dead
      | dismissed => exact Function.update_self ..
    next => exact steps.settled (ih inner)

theorem run_refused (ran : run events = some talk) (refused : .refuse caller ∈ events) :
    hasFailed events = true := by
  induction ran using run_induction with
  | first => cases refused
  | again events talk event later before ran steps ih =>
    rw [ClientEvent.hasFailed_append, Bool.or_eq_true]
    rcases List.mem_append.mp refused with inside | last
    next => exact .inl (ih inside)
    next =>
      obtain rfl := List.mem_singleton.mp last
      cases steps with
      | refused _ gone => exact .inl ((run_marks before).failed.mpr (by simp [gone]))

theorem run_withdrawn (ran : run events = some talk) (withdrawn : .withdraw caller ∈ events) :
    ∃ request, talk.calls caller = .settled (some request) (.error writerStopped) := by
  induction ran using run_induction with
  | first => cases withdrawn
  | again events talk event later before ran steps ih =>
    rcases List.mem_append.mp withdrawn with inside | last
    next => exact (ih inside).imp fun _ stage => steps.settled stage
    next =>
      obtain rfl := List.mem_singleton.mp last
      cases steps with
      | withdrawn stage => exact ⟨_, Function.update_self ..⟩

end Run

section Stream

variable {stream : List Segment}

def heardBy (stream : List Segment) (events : List ClientEvent) : List String :=
  heard (output events).length stream

theorem reader_framed (framed : Framed stream) {size : Nat} {bytes missing : Bytes}
    {client : WorkerClient}
    (whole : size + (bytes ++ missing).length = (Segment.joined stream).length)
    (held : client.buffer ++ (bytes ++ missing) =
      Segment.joined (leftover (fun _ => false) (bytes ++ missing).length stream)) :
    heard (size + bytes.length) stream = heard size stream ++ (client.reader bytes).2 ∧
      (client.reader bytes).1 ++ missing =
        Segment.joined (leftover (fun _ => false) missing.length stream) := by
  have fewer : missing.length ≤ (bytes ++ missing).length := by simp
  have inner : Framed (leftover (fun _ => false) (bytes ++ missing).length stream) :=
    fun segment member => framed segment ((leftover_suffix _ stream).mem member)
  obtain ⟨given, kept⟩ := note_framed inner ((List.append_assoc ..).trans held)
  rw [leftover_leftover framed fewer] at given kept
  have before := heard_append_leftover framed whole
  have behind : size + bytes.length + missing.length = (Segment.joined stream).length := by
    simpa [Nat.add_assoc] using whole
  have later := heard_append_leftover framed behind
  refine ⟨?_, kept⟩
  rw [← before, ← given, ← List.append_assoc] at later
  exact List.append_cancel_right later

-- Each frame that has come is routed in its turn, and the buffer begins where the next one does.
theorem run_hears (framed : Framed stream) {events : List ClientEvent}
    (ran : run events = some talk) {missing : Bytes}
    (written : output events ++ missing = Segment.joined stream) :
    routed events ++ talk.inbox = heardBy stream events ∧
      talk.client.buffer ++ missing =
        Segment.joined (leftover (fun _ => false) missing.length stream) := by
  induction ran using run_induction generalizing missing with
  | first =>
    have all : missing = Segment.joined stream := written
    have whole : 0 + missing.length = (Segment.joined stream).length := by simp [all]
    have parts := heard_append_leftover framed whole
    rw [all, leftover_all, List.append_left_eq_self] at parts
    exact ⟨parts.symm, by rw [all, leftover_all]; rfl⟩
  | again events talk event later before ran steps ih =>
    rw [ClientEvent.output_append, List.append_assoc] at written
    obtain ⟨told, held⟩ := ih written
    rw [heardBy] at told
    rw [ClientEvent.routed_append, heardBy, ClientEvent.output_append, List.length_append]
    cases steps with
    | @read bytes reading empty =>
      have single : output [.read bytes] = bytes := List.append_nil bytes
      have nothing : routed [.read bytes] = [] := rfl
      have whole := congrArg List.length written
      rw [List.length_append] at whole
      rw [single] at held whole ⊢
      obtain ⟨more, kept⟩ := reader_framed framed whole held
      refine ⟨?_, kept⟩
      rw [more, ← told, empty, nothing]
    | @routed body rest inbox =>
      have single : routed [.route body] = [body] := rfl
      refine ⟨?_, (deliver_unchanged talk.client body).2.2 ▸ held⟩
      rw [inbox] at told
      rw [single, List.append_assoc]
      exact told
    | _ => exact ⟨(List.append_nil _).symm ▸ told, held⟩

end Stream

section Sent

variable {events before between after : List ClientEvent}

theorem Steps.was_pending (steps : Steps talk event later)
    (pending : (later.calls caller).isPending = true) :
    (talk.calls caller).isPending = true ∨ event = .register caller := by
  by_cases own : event.caller? = some caller
  next =>
    cases steps with
    | notified | written | failed | stopped | read | routed | finished | cleared => cases own
    | registered =>
      obtain rfl := Option.some.inj own
      exact .inr rfl
    | _ =>
      obtain rfl := Option.some.inj own
      simp_all [CallStage.isPending]
  next => exact .inl (steps.calls_other own ▸ pending)

theorem run_registered (ran : run events = some talk)
    (pending : (talk.calls caller).isPending = true) : .register caller ∈ events := by
  induction ran using run_induction with
  | first => cases pending
  | again events talk event later before ran steps ih =>
    rcases steps.was_pending pending with already | rfl
    next => exact List.mem_append_left _ (ih already)
    next => simp

theorem run_cut {front back : List ClientEvent} {mark : ClientEvent}
    (ran : run (front ++ mark :: back) = some talk) :
    ∃ mid next, run front = some mid ∧ Steps mid mark next := by
  rw [run, follow_append] at ran
  obtain ⟨mid, reached, rest⟩ := Option.bind_eq_some_iff.mp ran
  obtain ⟨next, taken, -⟩ := Option.bind_eq_some_iff.mp rest
  exact ⟨mid, next, reached, steps_of_step taken⟩

theorem run_sent {front : List ClientEvent}
    (ran : run (front ++ .send caller :: after) = some talk) :
    ∃ before between, front = before ++ .register caller :: between := by
  obtain ⟨mid, next, reached, steps⟩ := run_cut ran
  cases steps with
  | sent stage =>
    exact List.append_of_mem (run_registered reached (by simp [stage, CallStage.isPending]))

theorem run_fate (ran : run events = some talk)
    (cut : events = before ++ .register caller :: (between ++ .send caller :: after))
    (lasting : .expire caller ∉ events) :
    ∃ request, (talk.calls caller).request? = some request ∧
      talk.fate caller =
        ending request.id (routed (between ++ after)) (hasCleared (between ++ after)) := by
  obtain ⟨request, fares⟩ := run_fares ran cut
  refine ⟨request, fares.request_eq, ?_⟩
  have kept : .expire caller ∉ between ++ .send caller :: after := by
    simp_all
  have silent (front back : List ClientEvent)
      (inner : between ++ .send caller :: after = front ++ .clear :: back) : routed back = [] := by
    have whole : events = (before ++ .register caller :: front) ++ .clear :: back := by
      simp [cut, inner]
    exact (run_silent ran whole).1
  rw [fares.fate_eq (by simp) kept, findSome_verdict _ silent]
  simp [ClientEvent.routed_cons, ClientEvent.hasCleared_cons, ClientEvent.body?,
    ClientEvent.isClear]

end Sent

def EndAsSent (events : List ClientEvent) (talk : Conversation) : Prop :=
  ∀ before after caller request, events = before ++ .send caller :: after →
    .expire caller ∉ events → (talk.calls caller).request? = some request →
    talk.fate caller = ending request.id (routed after) (hasCleared events)

-- Nobody registers a request behind the end, and no response comes to one that is not sent yet,
-- or none but such as it would end with in any case.
def Undisturbed (events : List ClientEvent) (talk : Conversation) : Prop :=
  ∀ before between after caller request,
    events = before ++ .register caller :: (between ++ .send caller :: after) →
    .expire caller ∉ events → (talk.calls caller).request? = some request →
    hasCleared before = false ∧
      ∀ response, (routed between).findSome? (answerTo request.id) = some response →
        ending request.id (routed after) (hasCleared events) = some (resultOf response)

theorem endAsSent_iff {events : List ClientEvent} (ran : run events = some talk) :
    EndAsSent events talk ↔ Undisturbed events talk := by
  have cutwise (before between after : List ClientEvent) (caller : Nat) (request : RequestMessage)
      (cut : events = before ++ .register caller :: (between ++ .send caller :: after))
      (lasting : .expire caller ∉ events)
      (asked : (talk.calls caller).request? = some request) :
      talk.fate caller = ending request.id (routed after) (hasCleared events) ↔
        hasCleared before = false ∧
          ∀ response, (routed between).findSome? (answerTo request.id) = some response →
            ending request.id (routed after) (hasCleared events) = some (resultOf response) := by
    obtain ⟨same, known, actual⟩ := run_fate ran cut lasting
    obtain rfl : same = request := Option.some.inj (known.symm.trans asked)
    have parts : hasCleared events =
        (hasCleared before || (hasCleared between || hasCleared after)) := by
      simp [cut, ClientEvent.hasCleared_cons, ClientEvent.isClear]
    rw [actual, ClientEvent.routed_append, ClientEvent.hasCleared_append, parts]
    cases late : hasCleared before with
    | true =>
      -- Behind the clear nothing is routed and nothing is cleared, so the request does not end.
      obtain ⟨silent, once⟩ := run_late (cut ▸ ran) late
      simp [ClientEvent.routed_cons, ClientEvent.hasCleared_cons, ClientEvent.isClear]
        at silent once
      simp [silent, once, ending]
    | false =>
      rw [Bool.false_or, ending_append]
      cases (routed between).findSome? (answerTo same.id) with
      | none => simp
      | some response => simp [eq_comm]
  constructor
  next =>
    intro promised before between after caller request cut lasting asked
    refine (cutwise before between after caller request cut lasting asked).mp ?_
    exact promised (before ++ .register caller :: between) after caller request (by simp [cut])
      lasting asked
  next =>
    intro undisturbed front after caller request cut lasting asked
    obtain ⟨before, between, rfl⟩ := run_sent (cut ▸ ran)
    have whole : events = before ++ .register caller :: (between ++ .send caller :: after) := by
      simp [cut]
    exact (cutwise before between after caller request whole lasting asked).mpr
      (undisturbed before between after caller request whole lasting asked)

-- A request that was sent ends with the first response to it that comes once it is registered. It
-- is the steps before that must be undisturbed for what is promised from the sending on.
theorem requests_end_as_sent_iff (stream : List Segment) (framed : Framed stream)
    (events : List ClientEvent) (missing : Bytes)
    (written : output events ++ missing = Segment.joined stream) (talk : Conversation)
    (ran : run events = some talk) :
    (EndAsSent events talk ↔ Undisturbed events talk) ∧
    (∀ before between after caller,
      events = before ++ .register caller :: (between ++ .send caller :: after) →
      .expire caller ∉ events →
      ∃ request, (talk.calls caller).request? = some request ∧
        talk.fate caller =
          ending request.id (routed (between ++ after)) (hasCleared (between ++ after))) ∧
    (∀ caller other request same, (talk.calls caller).request? = some request →
      (talk.calls other).request? = some same → request.id = same.id → caller = other) ∧
    routed events ++ talk.inbox = heardBy stream events ∧
    (hasFinished events = true → talk.inbox = []) ∧
    (∀ earlier rest caller method params, events = earlier ++ .ask caller method params :: rest →
      (hasFinished earlier || hasFailed earlier) = true →
      talk.calls caller = .settled none (.error (.unavailable "worker has exited"))) ∧
    (∀ caller, .refuse caller ∈ events → hasFailed events = true) ∧
    (∀ caller, .withdraw caller ∈ events →
      ∃ request, talk.calls caller =
          .settled (some request) (.error (.unavailable "worker writer has stopped")) ∧
        request.id ∉ talk.client.waiting) ∧
    ∀ (P : Type) (program : Program P) (link : WorkerLink P) (worker : P) (caller : Nat)
      (method : String) (params : Json), talk.AtRest → talk.calls caller = .idle →
      link.running = some (talk.client, worker) →
      ∃ more later left request,
        run (events ++ .ask caller method params :: more) = some later ∧ later.AtRest ∧
          later.calls caller =
            .settled request (WorkerLink.request program method params link).1 ∧
          (WorkerLink.request program method params link).2.running =
            some (later.client, left) := by
  have sound := run_sound ran
  have marks := run_marks ran
  refine ⟨endAsSent_iff ran, fun before between after caller cut => run_fate ran cut, sound.own,
    (run_hears framed ran written).1, fun finished => marks.drained ?_,
    fun earlier rest caller method params cut => run_dismissed ran cut,
    fun caller => run_refused ran, fun caller member => ?_,
    fun P program link worker caller method params rest idle running => ?_⟩
  next => exact marks.finished.mp finished
  next =>
    obtain ⟨request, stage⟩ := run_withdrawn ran member
    refine ⟨request, stage, fun waits => ?_⟩
    have pending := sound.held caller request (congrArg CallStage.request? stage) (.inl waits)
    simp [stage, CallStage.isPending] at pending
  next =>
    have working (alive : talk.client.alive = true) :
        talk.reader = .working ∧ talk.writer = .working := by
      rw [marks.alive, Bool.not_eq_true', Bool.or_eq_false_iff] at alive
      exact ⟨by_contra fun past => by simp [marks.finished.mpr past] at alive,
        by_contra fun past => by simp [marks.failed.mpr past] at alive⟩
    obtain ⟨more, later, left, request, followed, answered⟩ :=
      follow_request program method params rest working idle running
    refine ⟨more, later, left, request, ?_, answered⟩
    rw [run, follow_append]
    exact (congrArg (Option.bind · _) ran).trans followed

-- The second of two requests is answered first, after an answer under its id that came too early
-- and before another one; in between stands what is no response to it. Then the writer fails, and
-- the output ends.
theorem hostile_frames_keep_requests_apart :
    let texts :=
      ["\x7b\"jsonrpc\":\"2.0\",\"id\":2,\"result\":\"early\"\x7d",
        "\x7b\"jsonrpc\":\"2.0\",\"id\":\"2\",\"result\":\"text\"\x7d",
        "\x7b\"jsonrpc\":\"2.0\",\"id\":2,\"method\":\"ask\"\x7d", "no message",
        "\x7b\"jsonrpc\":\"2.0\",\"id\":2,\"result\":\"own\"\x7d",
        "\x7b\"jsonrpc\":\"2.0\",\"id\":2,\"result\":\"late\"\x7d"]
    let bytes := texts.flatMap Frame.encode
    let first := Frame.encode (texts.headD "")
    let before := [.ask 0 "script/infer" .null, .number 0, .register 0, .send 0, .write,
      .read (bytes.take (first.length + 9)), .route (texts.headD ""),
      .ask 1 "script/goto" .null, .number 1]
    let after := .read (bytes.drop (first.length + 9)) :: (texts.tail.map .route ++
      [.ask 2 "script/help" .null, .number 2, .register 2, .fail, .stop, .refuse 2, .withdraw 2,
        .finish, .clear])
    let events := before ++ .register 1 :: ([] ++ .send 1 :: after)
    ∃ talk, run events = some talk ∧
      (talk.fate 1).map (Except.map Json.write) = some (.ok "\"own\"") ∧
      ∃ request, talk.calls 2 =
        .settled (some request) (.error (.unavailable "worker writer has stopped")) := by
  intro texts bytes first before after events
  have fits : ∀ text ∈ texts, Frame.Fits text := by decide +kernel
  have framed : Framed (texts.map Frame.toSegment) := by
    intro segment member
    obtain ⟨text, inTexts, rfl⟩ := List.mem_map.mp member
    exact ⟨Frame.readable_toSegment (fits text inTexts), rfl⟩
  have written : output events ++ [] = Segment.joined (texts.map Frame.toSegment) := by
    rw [Frame.joined_frames]
    have silent : (texts.map ClientEvent.route).tail.flatMap ClientEvent.bytes = [] := rfl
    simp [output, events, before, after, ClientEvent.bytes, bytes, silent]
  have reached : (run events).map (fun talk => (talk.calls 1).request?.map RequestMessage.id) =
      some (some (.number 2)) := by
    decide +kernel
  obtain ⟨talk, ran, known⟩ := Option.map_eq_some_iff.mp reached
  obtain ⟨-, ended, -, -, -, -, -, withdrawn, -⟩ :=
    requests_end_as_sent_iff _ framed events [] written talk ran
  have lasting : .expire 1 ∉ events := by simp [events, before, after, texts]
  obtain ⟨request, asked, fate⟩ := ended before [] after 1 rfl lasting
  rw [asked] at known
  obtain id : request.id = .number 2 := Option.some.inj known
  obtain ⟨third, stage, -⟩ := withdrawn 2 (by simp [events, after])
  refine ⟨talk, ran, ?_, third, stage⟩
  rw [fate, id]
  decide +kernel

-- Two requests whose steps are disturbed. The first finds the worker alive, but is registered only
-- when the output has ended and nobody clears what is pending any more. The second ends with what
-- the worker wrote before it was sent.
theorem disturbed_requests_break_the_promise :
    let body := "\x7b\"jsonrpc\":\"2.0\",\"id\":1,\"result\":\"early\"\x7d"
    let late : List ClientEvent :=
      [.ask 0 "script/infer" .null, .finish, .clear, .number 0, .register 0, .send 0]
    let early : List ClientEvent :=
      [.ask 0 "script/infer" .null, .number 0, .register 0, .read (Frame.encode body), .route body,
        .send 0]
    (∃ talk, run late = some talk ∧ talk.fate 0 = none ∧ ¬ EndAsSent late talk) ∧
      ∃ talk, run early = some talk ∧
        (talk.fate 0).map (Except.map Json.write) = some (.ok "\"early\"") ∧
        ¬ EndAsSent early talk := by
  intro body late early
  constructor
  next =>
    refine ⟨_, rfl, rfl, fun promised => ?_⟩
    have fate := promised
      [.ask 0 "script/infer" .null, .finish, .clear, .number 0, .register 0] [] 0 _ rfl
      (by simp [late]) rfl
    cases fate
  next =>
    have reached : (run early).map
        (fun talk => ((talk.calls 0).request?.isSome, (talk.fate 0).map (Except.map Json.write))) =
          some (true, some (.ok "\"early\"")) := by
      decide +kernel
    obtain ⟨talk, ran, known⟩ := Option.map_eq_some_iff.mp reached
    obtain ⟨asked, fate⟩ := Prod.mk.inj known
    obtain ⟨request, asked⟩ := Option.isSome_iff_exists.mp asked
    refine ⟨talk, ran, fate, fun promised => ?_⟩
    have waits := promised
      [.ask 0 "script/infer" .null, .number 0, .register 0, .read (Frame.encode body), .route body]
      [] 0 request rfl (by simp [early]) asked
    have unanswered : talk.fate 0 = none := waits
    simp [unanswered] at fate

end Conversation

end PythonAssist
