import PythonAssist.Proofs.Server.Dispatch

set_option autoImplicit false

namespace PythonAssist

inductive HandlerCall where
  | connect (succeeded : Bool)
  | shutdown
  | answer (query : Query)
  | receive (notice : Notice)

def HandlerCall.IsUse : HandlerCall → Prop
  | .answer _ | .receive _ => True
  | .connect _ | .shutdown => False

section Logged

variable {S A : Type}

def Outcome.logged (outcome : Outcome S A) (calls : List HandlerCall) (call : HandlerCall) :
    Outcome (S × List HandlerCall) A :=
  { result := outcome.result, notices := outcome.notices
    state := (outcome.state, calls ++ [call]) }

def Handler.logged (handler : Handler S) : Handler (S × List HandlerCall) :=
  { connect := fun params state =>
      let outcome := handler.connect params state.1
      outcome.logged state.2 (.connect outcome.result.isOk)
    shutdown := fun state => (handler.shutdown state.1).logged state.2 .shutdown
    answer := fun query state => (handler.answer query state.1).logged state.2 (.answer query)
    receive := fun notice state =>
      (handler.receive notice state.1).logged state.2 (.receive notice) }

end Logged

inductive Proceeds : Lifecycle → List HandlerCall → Lifecycle → List HandlerCall → Prop
  | idle (lifecycle : Lifecycle) (calls : List HandlerCall) :
      Proceeds lifecycle calls lifecycle calls
  | refused (calls : List HandlerCall) :
      Proceeds .uninitialized calls .uninitialized (calls ++ [.connect false])
  | connected (calls : List HandlerCall) :
      Proceeds .uninitialized calls .running (calls ++ [.connect true])
  | used (calls : List HandlerCall) (call : HandlerCall) : call.IsUse →
      Proceeds .running calls .running (calls ++ [call])
  | stopped (calls : List HandlerCall) :
      Proceeds .running calls .shutdownRequested (calls ++ [.shutdown])

inductive Lived : Lifecycle → List HandlerCall → Prop
  | waiting (refused : List HandlerCall) : (∀ call ∈ refused, call = .connect false) →
      Lived .uninitialized refused
  | serving (refused uses : List HandlerCall) : (∀ call ∈ refused, call = .connect false) →
      (∀ call ∈ uses, call.IsUse) → Lived .running (refused ++ .connect true :: uses)
  | retired (refused uses : List HandlerCall) : (∀ call ∈ refused, call = .connect false) →
      (∀ call ∈ uses, call.IsUse) →
      Lived .shutdownRequested (refused ++ .connect true :: (uses ++ [.shutdown]))

namespace Lived

variable {before after : Lifecycle} {calls more : List HandlerCall}

theorem proceed (lived : Lived before calls) (proceeds : Proceeds before calls after more) :
    Lived after more := by
  cases proceeds with
  | idle => exact lived
  | refused =>
    cases lived with
    | waiting refused fails =>
      refine .waiting _ fun call member => ?_
      rcases List.mem_append.mp member with known | last
      · exact fails call known
      · exact List.mem_singleton.mp last
  | connected =>
    cases lived with
    | waiting _ fails => exact .serving _ [] fails (by simp)
  | used _ call use =>
    cases lived with
    | serving refused uses fails used =>
      rw [List.append_assoc, List.cons_append]
      refine .serving refused (uses ++ [call]) fails fun other member => ?_
      rcases List.mem_append.mp member with known | last
      · exact used other known
      · exact List.mem_singleton.mp last ▸ use
  | stopped =>
    cases lived with
    | serving refused uses fails used =>
      rw [List.append_assoc, List.cons_append]
      exact .retired refused uses fails used

theorem connected_iff (lived : Lived before calls) :
    .connect true ∈ calls ↔ before ≠ .uninitialized := by
  cases lived with
  | waiting refused fails =>
    refine iff_of_false (fun member => ?_) (by simp)
    cases fails _ member
  | serving => simp
  | retired => simp

theorem stopped_iff (lived : Lived before calls) :
    .shutdown ∈ calls ↔ before = .shutdownRequested := by
  have notRefused {refused : List HandlerCall} (fails : ∀ call ∈ refused, call = .connect false) :
      HandlerCall.shutdown ∉ refused := fun member => nomatch fails _ member
  cases lived with
  | waiting refused fails => exact iff_of_false (notRefused fails) (by simp)
  | serving refused uses fails used =>
    have notUsed : HandlerCall.shutdown ∉ uses := fun member => used _ member
    simp [notRefused fails, notUsed]
  | retired => simp

end Lived

namespace Server

variable {S A : Type}

section Calls

def calls (server : Server (S × List HandlerCall)) : List HandlerCall := server.state.2

def withoutCalls (server : Server (S × List HandlerCall)) : Server S :=
  { state := server.state.1, lifecycle := server.lifecycle, exited := server.exited
    sent := server.sent }

variable (handler : Handler S) (server : Server (S × List HandlerCall))

def Mirrors (logged : Reply × Server (S × List HandlerCall)) (plain : Reply × Server S) : Prop :=
  (logged.1, logged.2.withoutCalls) = plain

theorem connect_mirrors (params : Json) :
    Mirrors (connect handler.logged params server)
      (connect handler params server.withoutCalls) := by
  unfold Mirrors connect
  cases InitializeParams.decode params with
  | error cause => rfl
  | ok params =>
    simp only [Handler.logged, Outcome.logged, withoutCalls, absorb]
    cases (handler.connect params server.state.1).result <;> rfl

theorem query_mirrors (method : String) (params : Json) :
    Mirrors (query handler.logged method params server)
      (query handler method params server.withoutCalls) := by
  unfold Mirrors query
  cases Query.decoder? method with
  | none => rfl
  | some decode =>
    dsimp only
    cases decode params <;> rfl

theorem reply_mirrors (request : RequestMessage) :
    Mirrors (reply handler.logged request server) (reply handler request server.withoutCalls) := by
  have same : server.withoutCalls.lifecycle = server.lifecycle := rfl
  unfold reply
  rw [same]
  cases server.lifecycle with
  | uninitialized =>
    dsimp only
    split
    · exact connect_mirrors handler server request.params
    · rfl
  | shutdownRequested =>
    dsimp only
    split <;> rfl
  | running =>
    dsimp only
    repeat' split
    · rfl
    · rfl
    · exact query_mirrors handler server _ _

theorem receive_withoutCalls (notification : NotificationMessage) :
    (receive handler.logged notification server).withoutCalls =
      receive handler notification server.withoutCalls := by
  have same : server.withoutCalls.lifecycle = server.lifecycle := rfl
  unfold receive
  rw [same]
  repeat' split
  all_goals rfl

theorem handle_withoutCalls (body : String) :
    (handle handler.logged body server).withoutCalls =
      handle handler body server.withoutCalls := by
  unfold handle
  cases Incoming.classify body with
  | error e => rfl
  | ok incoming =>
    cases incoming with
    | request request =>
      have mirrors := reply_mirrors handler server request
      dsimp only
      rw [← mirrors]
      rfl
    | notification notification => exact receive_withoutCalls handler server notification
    | response response => rfl

theorem handleAll_withoutCalls (bodies : List String) :
    (handleAll handler.logged bodies server).withoutCalls =
      handleAll handler bodies server.withoutCalls := by
  induction bodies generalizing server with
  | nil => rfl
  | cons body rest ih =>
    have first := ih (handle handler.logged body server)
    rwa [handle_withoutCalls] at first

variable {server}

theorem connect_proceeds (params : Json) (waiting : server.lifecycle = .uninitialized) :
    let after := (connect handler.logged params server).2
    Proceeds server.lifecycle server.calls after.lifecycle after.calls := by
  unfold connect
  cases InitializeParams.decode params with
  | error cause => exact .idle _ _
  | ok params =>
    rw [waiting]
    simp only [Handler.logged, Outcome.logged, absorb, calls]
    cases (handler.connect params server.state.1).result with
    | error text => exact waiting ▸ .refused _
    | ok value => exact .connected _

theorem query_proceeds (method : String) (params : Json) (running : server.lifecycle = .running) :
    let after := (query handler.logged method params server).2
    Proceeds server.lifecycle server.calls after.lifecycle after.calls := by
  unfold query
  cases Query.decoder? method with
  | none => exact .idle _ _
  | some decode =>
    dsimp only
    cases decode params with
    | error cause => exact .idle _ _
    | ok question => exact running ▸ .used _ (.answer question) trivial

theorem reply_proceeds (request : RequestMessage) :
    let after := (reply handler.logged request server).2
    Proceeds server.lifecycle server.calls after.lifecycle after.calls := by
  unfold reply
  cases state : server.lifecycle with
  | uninitialized =>
    dsimp only
    split
    · exact state ▸ connect_proceeds handler request.params state
    · exact state ▸ .idle _ _
  | shutdownRequested =>
    dsimp only
    split <;> exact state ▸ .idle _ _
  | running =>
    dsimp only
    repeat' split
    · exact state ▸ .idle _ _
    · exact .stopped _
    · exact state ▸ query_proceeds handler _ _ state

theorem receive_proceeds (notification : NotificationMessage) :
    let after := receive handler.logged notification server
    Proceeds server.lifecycle server.calls after.lifecycle after.calls := by
  unfold receive
  by_cases running : server.lifecycle = .running
  next =>
    repeat' split
    · exact .idle _ _
    · exact .idle _ _
    · exact .idle _ _
    · exact .idle _ _
    · show Proceeds server.lifecycle server.calls server.lifecycle _
      rw [running]
      exact .used _ (.receive _) trivial
  next =>
    rw [if_pos running]
    split <;> exact .idle _ _

theorem handle_proceeds (body : String) :
    let after := handle handler.logged body server
    Proceeds server.lifecycle server.calls after.lifecycle after.calls := by
  unfold handle
  cases Incoming.classify body with
  | error e => exact .idle _ _
  | ok incoming =>
    cases incoming with
    | request request => exact reply_proceeds handler request
    | notification notification => exact receive_proceeds handler notification
    | response response => exact .idle _ _

theorem handleAll_lived (lived : Lived server.lifecycle server.calls) (bodies : List String) :
    let after := handleAll handler.logged bodies server
    Lived after.lifecycle after.calls := by
  induction bodies generalizing server with
  | nil => exact lived
  | cons body rest ih => exact ih (lived.proceed (handle_proceeds handler body))

end Calls

section Requests

def refuse (server : Server S) (request : RequestMessage) (code : Int) (text : String) : Server S :=
  server.send (.response (.failure (some request.id) code text))

variable (handler : Handler S) {server : Server S} {body : String} {request : RequestMessage}

theorem handle_request (classified : Incoming.classify body = .ok (.request request)) :
    handle handler body server =
      (reply handler request server).2.send
        (.response ((reply handler request server).1.toResponse request.id)) := by
  unfold handle
  rw [classified]

theorem handle_early (classified : Incoming.classify body = .ok (.request request))
    (early : server.lifecycle = .uninitialized) (other : request.method ≠ "initialize") :
    handle handler body server =
      server.refuse request ErrorCode.notInitialized "Server not initialized" := by
  rw [handle_request handler classified, reply, early]
  simp only [other, if_false]
  rfl

theorem handle_again (classified : Incoming.classify body = .ok (.request request))
    (connected : server.lifecycle ≠ .uninitialized) (again : request.method = "initialize") :
    handle handler body server =
      server.refuse request ErrorCode.invalidRequest "Server already initialized" := by
  rw [handle_request handler classified, reply]
  cases state : server.lifecycle with
  | uninitialized => exact absurd state connected
  | running =>
    simp only [again, if_true]
    rfl
  | shutdownRequested =>
    simp only [again, if_true]
    rfl

theorem handle_late (classified : Incoming.classify body = .ok (.request request))
    (late : server.lifecycle = .shutdownRequested) :
    ∃ text, handle handler body server =
      server.refuse request ErrorCode.invalidRequest text := by
  rw [handle_request handler classified, reply, late]
  by_cases again : request.method = "initialize"
  next => exact ⟨"Server already initialized", by simp only [again, if_true]; rfl⟩
  next => exact ⟨"Server is shutting down", by simp only [again, if_false]; rfl⟩

theorem handle_attempt (classified : Incoming.classify body = .ok (.request request))
    (early : server.lifecycle = .uninitialized) (attempt : request.method = "initialize") :
    handle handler body server =
      (connect handler request.params server).2.send
        (.response ((connect handler request.params server).1.toResponse request.id)) := by
  rw [handle_request handler classified, reply, early]
  simp only [attempt, if_true]

end Requests

section Shutdown

def AcceptsShutdown (server : Server (S × List HandlerCall)) (body : String) : Prop :=
  ∃ request, Incoming.classify body = .ok (.request request) ∧ request.method = "shutdown" ∧
    .connect true ∈ server.calls ∧ .shutdown ∉ server.calls

variable (handler : Handler S) {server : Server (S × List HandlerCall)}

theorem running_iff (lived : Lived server.lifecycle server.calls) :
    server.lifecycle = .running ↔ .connect true ∈ server.calls ∧ .shutdown ∉ server.calls := by
  rw [lived.connected_iff, lived.stopped_iff]
  cases server.lifecycle <;> simp

theorem connect_stops_not (handler : Handler S) (params : Json) {server : Server S}
    (early : server.lifecycle = .uninitialized) :
    (connect handler params server).2.lifecycle ≠ .shutdownRequested := by
  unfold connect
  split
  next => simp [early]
  next =>
    dsimp only
    split <;> simp [absorb, early]

theorem query_lifecycle (handler : Handler S) (method : String) (params : Json)
    (server : Server S) : (query handler method params server).2.lifecycle = server.lifecycle := by
  unfold query
  repeat' split
  all_goals rfl

theorem receive_lifecycle (handler : Handler S) (notification : NotificationMessage)
    (server : Server S) : (receive handler notification server).lifecycle = server.lifecycle := by
  unfold receive
  repeat' split
  all_goals rfl

theorem reply_stops_iff (handler : Handler S) (request : RequestMessage) (server : Server S) :
    (reply handler request server).2.lifecycle = .shutdownRequested ↔
      server.lifecycle = .shutdownRequested ∨
        server.lifecycle = .running ∧ request.method = "shutdown" := by
  unfold reply
  cases state : server.lifecycle with
  | uninitialized =>
    dsimp only
    split
    · simp [connect_stops_not handler request.params state]
    · simp [state]
  | shutdownRequested =>
    dsimp only
    split <;> simp [state]
  | running =>
    dsimp only
    split
    next again => simp [state, again]
    next =>
      split
      next stop => simp [shutdown, stop]
      next other => simp [query_lifecycle, state, other]

theorem handle_stops_iff (lived : Lived server.lifecycle server.calls) (body : String) :
    (handle handler.logged body server).lifecycle = .shutdownRequested ↔
      server.lifecycle = .shutdownRequested ∨ AcceptsShutdown server body := by
  unfold AcceptsShutdown handle
  rw [← running_iff lived]
  cases Incoming.classify body with
  | error e => simp [send]
  | ok incoming =>
    cases incoming with
    | request request => simp [send, reply_stops_iff, and_comm]
    | notification notification => simp [receive_lifecycle]
    | response response => simp

theorem handleAll_stops_iff (lived : Lived server.lifecycle server.calls)
    (serves : server.lifecycle ≠ .shutdownRequested) (bodies : List String) :
    (handleAll handler.logged bodies server).lifecycle = .shutdownRequested ↔
      ∃ earlier body later, bodies = earlier ++ body :: later ∧
        AcceptsShutdown (handleAll handler.logged earlier server) body := by
  induction bodies using List.reverseRecOn with
  | nil => simp [handleAll, serves]
  | append_singleton bodies last ih =>
    have before := handleAll_lived handler lived bodies
    have step : handleAll handler.logged (bodies ++ [last]) server =
        handle handler.logged last (handleAll handler.logged bodies server) := by
      simp [handleAll]
    rw [step, handle_stops_iff handler before, ih]
    constructor
    · rintro (⟨earlier, body, later, rfl, accepts⟩ | accepts)
      · exact ⟨earlier, body, later ++ [last], by simp, accepts⟩
      · exact ⟨bodies, last, [], rfl, accepts⟩
    · rintro ⟨earlier, body, later, cut, accepts⟩
      rcases snoc_cut cut with ⟨rfl, rfl, -⟩ | ⟨others, rfl, -⟩
      · exact .inr accepts
      · exact .inl ⟨earlier, body, others, rfl, accepts⟩

end Shutdown

section Exit

open PythonAssist.Frame

variable {final : String → Bool}

def EndsSession (final : String → Bool) (seen : List String) : Prop :=
  ∀ earlier body later, seen = earlier ++ body :: later → final body = true → later = []

theorem endsSession_of_goes {seen : List String} (goes : hasEnded final seen = false) :
    EndsSession final seen := by
  rintro earlier body later rfl ends
  simp [hasEnded, ends] at goes

theorem endsSession_note {seen : List String} (goes : hasEnded final seen = false)
    (body : String) : EndsSession final (note body seen) := by
  intro earlier other later cut ends
  rcases snoc_cut cut with ⟨-, -, rfl⟩ | ⟨others, rfl, -⟩
  · rfl
  · simp [hasEnded, ends] at goes

theorem feed_endsSession {buffer : Bytes} {seen : List String}
    (goes : hasEnded final seen = false) :
    EndsSession final (feed note (hasEnded final) buffer seen).2 := by
  fun_induction feed note (hasEnded final) buffer seen with
  | case1 => exact endsSession_note goes _
  | case2 buffer seen text rest found next still ih => exact ih (by simpa using still)
  | case3 => exact endsSession_of_goes goes
  | case4 => exact endsSession_of_goes goes
  | case5 => exact endsSession_of_goes goes
  | case6 => exact endsSession_of_goes goes

theorem feedAll_endsSession {buffer : Bytes} {pieces : List Bytes} {seen : List String}
    (ends : EndsSession final seen) :
    EndsSession final (feedAll note (hasEnded final) buffer pieces seen).2 := by
  induction pieces generalizing buffer seen with
  | nil => exact ends
  | cons piece rest ih =>
    unfold feedAll
    split
    next => exact ends
    next goes => exact ih (feed_endsSession (by simpa using goes))

theorem handedOver_endsSession (pieces : List Bytes) :
    EndsSession isExit (handedOver pieces) :=
  feedAll_endsSession (endsSession_of_goes rfl)

end Exit

open PythonAssist.Frame

-- A run handles bodies in turn, of which an exit is the last, and ends cleanly if a request to shut
-- down was accepted among them. Whatever the bodies are, the handler connects at most once, does
-- all else between that and its shutdown, and is shut down at most once. Requests before, between
-- and behind are turned down without reaching it, and as long as no attempt to connect has
-- succeeded, the next one reaches it.
theorem run_follows_lifecycle (handler : Handler S) (state : S) :
    let after := fun bodies => handleAll handler.logged bodies (start (state, []))
    (∀ pieces,
      run handler pieces (start state) = (after (handedOver pieces)).withoutCalls ∧
      EndsSession isExit (handedOver pieces) ∧
      ((run handler pieces (start state)).isClean = true ↔
        ∃ earlier body later, handedOver pieces = earlier ++ body :: later ∧
          AcceptsShutdown (after earlier) body)) ∧
    ∀ bodies,
      Lived (after bodies).lifecycle (after bodies).calls ∧
      ((after bodies).isClean = true ↔ .shutdown ∈ (after bodies).calls) ∧
      ∀ body request, Incoming.classify body = .ok (.request request) →
        let server := after bodies
        let next := handle handler.logged body server
        (.connect true ∉ server.calls → request.method ≠ "initialize" →
          next = server.refuse request ErrorCode.notInitialized "Server not initialized") ∧
        (.connect true ∈ server.calls → request.method = "initialize" →
          next = server.refuse request ErrorCode.invalidRequest "Server already initialized") ∧
        (.shutdown ∈ server.calls →
          ∃ text, next = server.refuse request ErrorCode.invalidRequest text) ∧
        (.connect true ∉ server.calls → request.method = "initialize" →
          match InitializeParams.decode request.params with
          | .error cause => next = server.send (.response ((badParams cause).toResponse request.id))
          | .ok params =>
            let outcome := handler.connect params server.state.1
            next.state.1 = outcome.state ∧
            next.calls = server.calls ++ [.connect outcome.result.isOk] ∧
            next.sent = server.sent ++ outcome.notices.map .unasked ++
              [.response ((replyOf id outcome.result).toResponse request.id)]) := by
  intro after
  have lived (bodies : List String) :
      Lived (after bodies).lifecycle (after bodies).calls :=
    handleAll_lived handler (.waiting [] (by simp)) bodies
  have clean (bodies : List String) :
      (after bodies).isClean = true ↔ (after bodies).lifecycle = .shutdownRequested := by
    simp [isClean]
  refine ⟨fun pieces => ?_, fun bodies => ⟨lived bodies, ?_, fun body request classified => ?_⟩⟩
  · have same : run handler pieces (start state) = (after (handedOver pieces)).withoutCalls :=
      (run_eq handler pieces rfl).trans
        (handleAll_withoutCalls handler (start (state, [])) (handedOver pieces)).symm
    refine ⟨same, handedOver_endsSession pieces, ?_⟩
    rw [same, ← handleAll_stops_iff handler (.waiting [] (by simp)) (by simp [start]) _]
    exact clean _
  · rw [clean, (lived bodies).stopped_iff]
  · intro server next
    have known := lived bodies
    have waits (early : .connect true ∉ server.calls) : server.lifecycle = .uninitialized :=
      by_contra fun other => early (known.connected_iff.mpr other)
    refine ⟨fun early other => ?_, fun connected again => ?_, fun late => ?_,
      fun early attempt => ?_⟩
    · exact handle_early handler.logged classified (waits early) other
    · exact handle_again handler.logged classified (known.connected_iff.mp connected) again
    · exact handle_late handler.logged classified (known.stopped_iff.mp late)
    · have attempted : next = _ :=
        handle_attempt handler.logged classified (waits early) attempt
      rw [attempted]
      unfold connect
      cases InitializeParams.decode request.params with
      | error cause => rfl
      | ok params =>
        simp only [Handler.logged, Outcome.logged, absorb, replyOf]
        cases (handler.connect params server.state.1).result <;> simp [send, calls]

def isRequest (body : String) : Bool :=
  match Incoming.classify body with
  | .ok (.request _) => true
  | _ => false

theorem isRequest_iff (body : String) :
    isRequest body = true ↔ ∃ request, Incoming.classify body = .ok (.request request) := by
  unfold isRequest
  split
  next request classified => exact ⟨fun _ => ⟨request, classified⟩, fun _ => rfl⟩
  next other => exact ⟨nofun, fun ⟨request, classified⟩ => absurd classified (other request)⟩

-- The handler connects at the second attempt. After the shutdown even a connection is turned down.
def reluctant : Handler Nat :=
  { connect := fun _ attempts =>
      .mk (if attempts = 0 then .error "busy" else .ok .null) [] (attempts + 1)
    shutdown := .mk (.ok ()) []
    answer := fun _ => .mk (.ok .null) []
    receive := fun _ => .mk (.ok ()) [] }

theorem run_follows_lifecycle_of_second_attempt :
    let attempt := "\x7b\"jsonrpc\":\"2.0\",\"id\":1,\"method\":\"initialize\"," ++
      "\"params\":\x7b\"capabilities\":\x7b\x7d\x7d\x7d"
    let stop := "\x7b\"jsonrpc\":\"2.0\",\"id\":2,\"method\":\"shutdown\"\x7d"
    let server := handleAll reluctant.logged [attempt, attempt, stop] (start (0, []))
    Lived .shutdownRequested server.calls ∧ server.state.1 = 2 ∧ .shutdown ∈ server.calls ∧
      ∃ request text, Incoming.classify attempt = .ok (.request request) ∧
        handle reluctant.logged attempt server =
          server.refuse request ErrorCode.invalidRequest text := by
  intro attempt stop server
  obtain ⟨lived, clean, requests⟩ := (run_follows_lifecycle reluctant 0).2 [attempt, attempt, stop]
  have stopped : server.lifecycle = .shutdownRequested := by decide +kernel
  have tries : server.state.1 = 2 := by decide +kernel
  have known : .shutdown ∈ server.calls := clean.mp (by simpa [isClean] using stopped)
  obtain ⟨request, classified⟩ := (isRequest_iff attempt).mp (by decide +kernel)
  obtain ⟨text, refused⟩ := (requests attempt request classified).2.2.1 known
  exact ⟨stopped ▸ lived, tries, known, request, text, classified, refused⟩

end Server

end PythonAssist
