import PythonAssist.Proofs.Worker.Tasks

set_option autoImplicit false

namespace PythonAssist

namespace WorkerClient

theorem receive_eq (client : WorkerClient) (bytes : Bytes) :
    client.receive bytes =
      (client.reader bytes).2.foldl (fun client body => client.deliver body)
        (client.withBuffer (client.reader bytes).1) := by
  have kept (buffer : Bytes) (bodies : List String) (client : WorkerClient) :
      bodies.foldl (fun client body => client.deliver body) (client.withBuffer buffer) =
        (bodies.foldl (fun client body => client.deliver body) client).withBuffer buffer := by
    induction bodies generalizing client with
    | nil => rfl
    | cons body rest ih => rw [List.foldl_cons, deliver_withBuffer, ih, List.foldl_cons]
  rw [receive, Frame.feed_unstopped, kept]
  rfl

end WorkerClient

namespace Conversation

open WorkerClient

structure AtRest (talk : Conversation) : Prop where
  inbox : talk.inbox = []
  outbound : talk.outbound = []

variable {P : Type} (program : Program P) {talk : Conversation}

theorem follow_routes (talk : Conversation) {bodies : List String} (inbox : talk.inbox = bodies) :
    follow (bodies.map .route) talk =
      some { talk with
        client := bodies.foldl (fun client body => client.deliver body) talk.client
        inbox := [] } := by
  induction bodies generalizing talk with
  | nil =>
    obtain ⟨client, calls, outbound, _, reader⟩ := talk
    cases inbox
    rfl
  | cons body rest ih =>
    have taken : talk.step (.route body) =
        some { talk with client := talk.client.deliver body, inbox := rest } := by
      simp [step, inbox]
    rw [List.map_cons, follow, taken, Option.bind_some, ih _ rfl]
    rfl

theorem follow_reads (working : talk.reader = .working) (empty : talk.inbox = [])
    (pieces : List Bytes) :
    ∃ events, follow events talk =
      some { talk with client := pieces.foldl receive talk.client } := by
  induction pieces generalizing talk with
  | nil => exact ⟨[], rfl⟩
  | cons piece rest ih =>
    have taken : talk.step (.read piece) =
        some { talk with
          client := talk.client.withBuffer (talk.client.reader piece).1
          inbox := (talk.client.reader piece).2 } := by
      simp [step, working, empty]
    have routes := follow_routes
      { talk with
        client := talk.client.withBuffer (talk.client.reader piece).1
        inbox := (talk.client.reader piece).2 } rfl
    rw [← receive_eq, ← empty] at routes
    obtain ⟨events, later⟩ :=
      @ih { talk with client := talk.client.receive piece } working empty
    refine ⟨.read piece :: ((talk.client.reader piece).2.map .route ++ events), ?_⟩
    rw [follow, taken, Option.bind_some, follow_append, routes, Option.bind_some]
    exact later

theorem follow_transmit (rest : talk.AtRest) (working : talk.reader = .working) (bytes : Bytes)
    (worker : P) :
    ∃ events later, follow events talk = some later ∧ later.AtRest ∧ later.calls = talk.calls ∧
      later.client = (WorkerLink.transmit program bytes talk.client worker).1 := by
  unfold WorkerLink.transmit
  split
  next => exact ⟨[], talk, rfl, rest, rfl, rfl⟩
  next =>
    obtain ⟨events, heard⟩ := follow_reads working rest.inbox
      ((program.feed bytes worker).1.flatMap reads)
    generalize received :
      ((program.feed bytes worker).1.flatMap reads).foldl receive talk.client = client at heard
    by_cases ends : program.hasEnded (program.feed bytes worker).2
    next =>
      refine ⟨events ++ [.finish, .clear],
        { talk with client := client.close, reader := .gone }, ?_, ⟨rest.inbox, rest.outbound⟩, rfl,
        by simp [received, ends]⟩
      rw [follow_append, heard]
      simp [follow, step, working, rest.inbox, close]
    next =>
      exact ⟨events, { talk with client }, heard, ⟨rest.inbox, rest.outbound⟩, rfl,
        by simp [received, ends]⟩

section Request

variable {caller : Nat} (method : String) (params : Json)

theorem follow_post (rest : talk.AtRest) (alive : talk.client.alive = true)
    (working : talk.writer = .working) (idle : talk.calls caller = .idle) :
    ∃ posted,
      follow [.ask caller method params, .number caller, .register caller, .send caller, .write]
          talk = some posted ∧
        posted.AtRest ∧ posted.reader = talk.reader ∧
        posted.calls caller = .waiting (talk.client.prepare method params).1 ∧
        posted.client = (talk.client.request method params).2 := by
  let request := (talk.client.prepare method params).1
  let posted : Conversation :=
    talk.move (talk.client.request method params).2 caller (.waiting request)
  refine ⟨posted, ?_, ⟨rest.inbox, rest.outbound⟩, rfl, Function.update_self .., rfl⟩
  simp [follow, step, idle, alive, move, rest.outbound, working, posted, request,
    WorkerClient.request]

theorem follow_end {request : RequestMessage} (rest : talk.AtRest)
    (waiting : talk.calls caller = .waiting request) :
    ∃ events later, follow events talk = some later ∧ later.AtRest ∧
      later.calls caller =
        .settled (some request) (talk.client.outcome request.id request.method) ∧
      later.client = talk.client.abandon request.id := by
  unfold outcome
  cases ready : talk.client.progress request.id with
  | none =>
    let later := talk.move (talk.client.abandon request.id) caller
      (.settled (some request) (.error (timedOut request.method)))
    exact ⟨[.expire caller], later, by simp [follow, step, waiting, ready, later],
      ⟨rest.inbox, rest.outbound⟩, Function.update_self .., rfl⟩
  | some result =>
    let later := talk.move (talk.client.abandon request.id) caller (.settled (some request) result)
    exact ⟨[.collect caller], later, by simp [follow, step, waiting, ready, later],
      ⟨rest.inbox, rest.outbound⟩, Function.update_self .., rfl⟩

-- A request over a link is a conversation in which nobody else has a part.
theorem follow_request (rest : talk.AtRest)
    (working : talk.client.alive = true → talk.reader = .working ∧ talk.writer = .working)
    (idle : talk.calls caller = .idle) {link : WorkerLink P} {worker : P}
    (running : link.running = some (talk.client, worker)) :
    ∃ events later left request,
      follow (.ask caller method params :: events) talk = some later ∧ later.AtRest ∧
        later.calls caller = .settled request (WorkerLink.request program method params link).1 ∧
        (WorkerLink.request program method params link).2.running = some (later.client, left) := by
  unfold WorkerLink.request
  rw [running]
  cases alive : talk.client.alive with
  | false =>
    exact ⟨[], talk.move talk.client caller (.settled none (.error exited)), worker, none,
      by simp [follow, step, idle, alive], ⟨rest.inbox, rest.outbound⟩, by simp [alive],
      by simp [alive, running, move]⟩
  | true =>
    simp only [alive, Bool.not_true, Bool.false_eq_true, if_false]
    obtain ⟨posted, asked, calm, same, waiting, sent⟩ :=
      follow_post method params rest alive (working alive).2 idle
    obtain ⟨heard, told, reached, quiet, calls, client⟩ :=
      follow_transmit program calm (same.trans (working alive).1)
        (talk.client.request method params).1.2 worker
    obtain ⟨last, later, ended, silent, result, left⟩ := follow_end quiet (calls ▸ waiting)
    refine ⟨[.number caller, .register caller, .send caller, .write] ++ heard ++ last, later,
      (WorkerLink.transmit program (talk.client.request method params).1.2
        (talk.client.request method params).2 worker).2, some (talk.client.prepare method params).1,
      ?_, silent, ?_, ?_⟩
    · rw [← List.cons_append, ← List.cons_append, follow_append, follow_append, asked,
        Option.bind_some, reached, Option.bind_some, ended]
    · rw [result, client, sent]
      rfl
    · rw [left, client, sent]
      rfl

end Request

end Conversation

end PythonAssist
