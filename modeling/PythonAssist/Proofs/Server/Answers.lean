import Mathlib.Data.List.Forall2
import PythonAssist.Proofs.Server.Dispatch

set_option autoImplicit false

namespace PythonAssist

def Outgoing.response? : Outgoing → Option ResponseMessage
  | .response message => some message
  | .unasked _ => none

namespace ResponseMessage

theorem get?_toJson (response : ResponseMessage) :
    response.toJson.get? "id" = some (Json.option RequestId.toJson response.id) ∧
      response.toJson.get? "result" = response.result ∧
      response.toJson.get? "error" = response.error.map ResponseError.toJson := by
  obtain ⟨jsonrpc, id, result, error⟩ := response
  cases result <;> cases error <;> simp [toJson, optionalField, Json.get?, Json.field?]

def OneOutcome (response : ResponseMessage) : Prop :=
  (response.toJson.get? "result").isSome ≠ (response.toJson.get? "error").isSome

theorem success_oneOutcome (id : RequestId) (result : Json) :
    (success id result).OneOutcome := by
  simp [OneOutcome, get?_toJson, success]

theorem failure_oneOutcome (id : Option RequestId) (code : Int) (message : String) :
    (failure id code message).OneOutcome := by
  simp [OneOutcome, get?_toJson, failure]

end ResponseMessage

namespace Server

variable {S : Type}

def responses (server : Server S) : List ResponseMessage :=
  server.sent.filterMap Outgoing.response?

def asksForAnswer (body : String) : Bool :=
  match Incoming.classify body with
  | .ok (.request _) | .error _ => true
  | .ok (.notification _) | .ok (.response _) => false

def Answers (body : String) (response : ResponseMessage) : Prop :=
  match Incoming.classify body with
  | .ok (.request request) => response.id = some request.id
  | .error cause =>
    response.id = none ∧ response.error = some ⟨ErrorCode.parseError, cause.message, none⟩
  | .ok (.notification _) | .ok (.response _) => False

theorem Routed.responses {before after : Server S} (routed : Routed before after) :
    after.responses = before.responses := by
  obtain ⟨notices, sent⟩ := routed.sent
  simp [Server.responses, sent, List.filterMap_map, Function.comp_def, Outgoing.response?]

theorem send_responses (server : Server S) (response : ResponseMessage) :
    (server.send (.response response)).responses = server.responses ++ [response] := by
  simp [responses, send, Outgoing.response?]

theorem toResponse_id (id : RequestId) (reply : Reply) : (reply.toResponse id).id = some id := by
  cases reply <;> rfl

theorem toResponse_oneOutcome (id : RequestId) (reply : Reply) :
    (reply.toResponse id).OneOutcome := by
  cases reply with
  | result value => exact ResponseMessage.success_oneOutcome id value
  | failure code text => exact ResponseMessage.failure_oneOutcome (some id) code text

theorem handle_answers (handler : Handler S) {body : String} (asks : asksForAnswer body = true)
    (server : Server S) :
    ∃ response, (handle handler body server).responses = server.responses ++ [response] ∧
      Answers body response ∧ response.OneOutcome := by
  unfold asksForAnswer at asks
  unfold handle Answers
  cases classified : Incoming.classify body with
  | error cause =>
    exact ⟨_, send_responses server _, ⟨rfl, rfl⟩, ResponseMessage.failure_oneOutcome none _ _⟩
  | ok incoming =>
    cases incoming with
    | request request =>
      let replied := reply handler request server
      have unchanged : replied.2.responses = server.responses :=
        (reply_routed handler request server).responses
      refine ⟨replied.1.toResponse request.id, ?_, toResponse_id request.id _,
        toResponse_oneOutcome request.id _⟩
      exact unchanged ▸ send_responses replied.2 _
    | notification notification => simp [classified] at asks
    | response response => simp [classified] at asks

theorem handle_silent (handler : Handler S) {body : String} (silent : asksForAnswer body = false)
    (server : Server S) : (handle handler body server).responses = server.responses := by
  unfold asksForAnswer at silent
  unfold handle
  cases classified : Incoming.classify body with
  | error cause => simp [classified] at silent
  | ok incoming =>
    cases incoming with
    | request request => simp [classified] at silent
    | response response => rfl
    | notification notification =>
      by_cases exits : notification.method = "exit"
      next => simp [receive, exits, responses]
      next => exact (receive_routed handler exits server).responses

theorem handleAll_answers (handler : Handler S) (bodies : List String) (server : Server S) :
    ∃ written, (handleAll handler bodies server).responses = server.responses ++ written ∧
      List.Forall₂ Answers (bodies.filter asksForAnswer) written ∧
      ∀ response ∈ written, response.OneOutcome := by
  induction bodies generalizing server with
  | nil => exact ⟨[], by simp [handleAll], .nil, by simp⟩
  | cons body rest ih =>
    obtain ⟨written, later, answered, outcomes⟩ := ih (handle handler body server)
    cases asks : asksForAnswer body with
    | false =>
      refine ⟨written, ?_, by simpa [asks] using answered, outcomes⟩
      rw [← handle_silent handler asks server, ← later]
      rfl
    | true =>
      obtain ⟨response, now, answers, outcome⟩ := handle_answers handler asks server
      refine ⟨response :: written, ?_, ?_, ?_⟩
      · rw [now, List.append_assoc] at later
        exact later
      · simpa [asks] using And.intro answers answered
      · simpa using And.intro outcome outcomes

theorem run_answers_requests_once (handler : Handler S) (server : Server S) :
    (∀ bodies : List String, ∃ written,
      (handleAll handler bodies server).responses = server.responses ++ written ∧
        List.Forall₂ Answers (bodies.filter asksForAnswer) written ∧
        ∀ response ∈ written, response.OneOutcome) ∧
    ∀ pieces : List Bytes, run handler pieces server =
      handleAll handler (if server.exited then [] else handedOver pieces) server := by
  refine ⟨fun bodies => handleAll_answers handler bodies server, fun pieces => ?_⟩
  cases ended : server.exited with
  | false => exact run_eq handler pieces ended
  | true =>
    rw [run, readFrom_eq, Frame.feedAll_stopped ended]
    rfl

end Server

end PythonAssist
