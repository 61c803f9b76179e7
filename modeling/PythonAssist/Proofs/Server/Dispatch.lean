import PythonAssist.Proofs.Wire.Rounds
import PythonAssist.Server

set_option autoImplicit false

namespace PythonAssist

def Handler.idle : Handler Unit :=
  { connect := fun _ => .mk (.ok .null) []
    shutdown := .mk (.ok ()) []
    answer := fun _ => .mk (.ok .null) []
    receive := fun _ => .mk (.ok ()) [] }

namespace Server

open PythonAssist.Frame

variable {S A : Type}

def isExit (body : String) : Bool :=
  match Incoming.classify body with
  | .ok (.notification notification) => notification.method == "exit"
  | _ => false

def handleAll (handler : Handler S) (bodies : List String) (server : Server S) : Server S :=
  bodies.foldl (fun server body => handle handler body server) server

def handedOver (pieces : List Bytes) : List String := (collect isExit pieces).2

structure Routed (before after : Server S) : Prop where
  exited : after.exited = before.exited
  sent : ∃ notices : List ClientNotice, after.sent = before.sent ++ notices.map .unasked

theorem Routed.refl (server : Server S) : Routed server server := ⟨rfl, [], by simp⟩

theorem absorb_routed (server : Server S) (outcome : Outcome S A) :
    Routed server (server.absorb outcome) :=
  ⟨rfl, outcome.notices, rfl⟩

theorem connect_routed (handler : Handler S) (params : Json) (server : Server S) :
    Routed server (connect handler params server).2 := by
  unfold connect
  split
  next => exact .refl server
  next =>
    dsimp only
    split <;> exact ⟨rfl, _, rfl⟩

theorem query_routed (handler : Handler S) (method : String) (params : Json) (server : Server S) :
    Routed server (query handler method params server).2 := by
  unfold query
  repeat' split
  · exact .refl server
  · exact .refl server
  · exact absorb_routed server _

theorem reply_routed (handler : Handler S) (request : RequestMessage) (server : Server S) :
    Routed server (reply handler request server).2 := by
  unfold reply
  repeat' split
  · exact connect_routed handler _ server
  · exact .refl server
  · exact .refl server
  · exact .refl server
  · exact .refl server
  · exact ⟨rfl, _, rfl⟩
  · exact query_routed handler _ _ server

theorem receive_routed (handler : Handler S) {notification : NotificationMessage}
    (goes : notification.method ≠ "exit") (server : Server S) :
    Routed server (receive handler notification server) := by
  unfold receive
  rw [if_neg goes]
  repeat' split
  · exact .refl server
  · exact .refl server
  · exact .refl server
  · exact absorb_routed server _

theorem handle_exited (handler : Handler S) (body : String) (server : Server S) :
    (handle handler body server).exited = (server.exited || isExit body) := by
  unfold handle isExit
  cases Incoming.classify body with
  | error e => simp [send]
  | ok incoming =>
    cases incoming with
    | request request => simp [send, (reply_routed handler request server).exited]
    | response response => simp
    | notification notification =>
      by_cases exits : notification.method = "exit"
      next => simp [receive, exits]
      next => simp [(receive_routed handler exits server).exited, exits]

theorem handleAll_exited (handler : Handler S) (bodies : List String) (server : Server S) :
    (handleAll handler bodies server).exited = (server.exited || hasEnded isExit bodies) := by
  induction bodies generalizing server with
  | nil => simp [handleAll, hasEnded]
  | cons body rest ih =>
    exact (ih (handle handler body server)).trans
      (by simp [handle_exited, hasEnded, Bool.or_assoc])

theorem readFrom_eq (handler : Handler S) (pieces : List Bytes) (buffer : Bytes)
    (server : Server S) :
    readFrom handler buffer pieces server =
      (feedAll (handle handler) Server.exited buffer pieces server).2 := by
  induction pieces generalizing buffer server with
  | nil => rfl
  | cons piece rest ih =>
    simp only [readFrom, feedAll, readPiece]
    split
    next => rfl
    next => exact ih _ _

theorem feedAll_handle (handler : Handler S) (pieces : List Bytes) {server : Server S}
    (running : server.exited = false) :
    feedAll (handle handler) Server.exited [] pieces server =
      ((collect isExit pieces).1, handleAll handler (handedOver pieces) server) := by
  apply feedAll_eq_collect
  intro seen
  exact (handleAll_exited handler seen server).trans (by rw [running, Bool.false_or])

theorem run_eq (handler : Handler S) (pieces : List Bytes) {server : Server S}
    (running : server.exited = false) :
    run handler pieces server = handleAll handler (handedOver pieces) server := by
  rw [run, readFrom_eq, feedAll_handle handler pieces running]

theorem handedOver_leftover {stream : List Segment}
    (readable : ∀ segment ∈ stream, segment.Readable) {pieces : List Bytes}
    (cut : pieces.flatten = Segment.joined stream) :
    handedOver pieces ++ upTo isExit (bodies (leftoverAll isExit pieces stream)) =
      upTo isExit (bodies stream) :=
  (collect_gotTo readable cut).given

-- A run handles the bodies that are handed over to it, and these are all bodies up to an exit if
-- and only if enough reads begin behind each header block that is dropped.
theorem run_handles_all_iff_enough_reads (handler : Handler S) (server : Server S)
    (running : server.exited = false) (stream : List Segment)
    (readable : ∀ segment ∈ stream, segment.Readable) (pieces : List Bytes)
    (cut : pieces.flatten = Segment.joined stream) :
    run handler pieces server = handleAll handler (handedOver pieces) server ∧
      handedOver pieces <+: upTo isExit (bodies stream) ∧
      (handedOver pieces = upTo isExit (bodies stream) ↔
        Enough (toCome pieces) (behindBlocks isExit stream)) := by
  have parts := handedOver_leftover readable cut
  refine ⟨run_eq handler pieces running, ⟨_, parts⟩, ?_⟩
  have complete : handedOver pieces = upTo isExit (bodies stream) ↔
      upTo isExit (bodies (leftoverAll isExit pieces stream)) = [] := by
    rw [← parts, List.self_eq_append_right]
  rw [complete, upTo_eq_nil, bodies_leftoverAll cut,
    foldl_pass_eq_nil (toCome_sorted pieces) (behindBlocks_sorted stream)]

theorem readable_plain_block : (⟨Utf8.encode "X: y", none⟩ : Segment).Readable := by
  have plain : "X: y".toList.all (fun c => 13 < c.toNat ∧ c.toNat < 128) = true := by decide
  have free : 13 ∉ Utf8.encode "X: y" :=
    Utf8.return_not_mem_encode fun c member => by simpa using List.all_eq_true.mp plain c member
  exact ⟨splitHeader_separator free, ⟨"X: y", Utf8.decode?_encode _, by decide⟩,
    fun filled => nomatch filled⟩

theorem run_handles_frame_of_next_read :
    let block : Segment := ⟨Utf8.encode "X: y", none⟩
    let body := "\x7b\"jsonrpc\":\"2.0\",\"id\":1,\"method\":\"shutdown\"\x7d"
    run .idle [block.bytes, encode body] (start ()) = handle .idle body (start ()) := by
  intro block body
  have fits : Fits body := by decide +kernel
  have readable : ∀ segment ∈ [block, toSegment body], segment.Readable := by
    simp [block, readable_plain_block, readable_toSegment fits]
  have cut : [block.bytes, encode body].flatten = Segment.joined [block, toSegment body] := by
    simp [Segment.joined, bytes_toSegment]
  obtain ⟨handles, _, all⟩ :=
    run_handles_all_iff_enough_reads .idle (start ()) rfl _ readable _ cut
  have blocks : behindBlocks isExit [block, toSegment body] = [(encode body).length] := by
    have last : behindBlocks isExit [toSegment body] = [] := by simp [behindBlocks, toSegment]
    have size : (Segment.joined [toSegment body]).length = (encode body).length := by
      simp [Segment.joined, bytes_toSegment]
    rw [behindBlocks, last, size]
    simp [bodies, block, toSegment]
  have reads : toCome [block.bytes, encode body] =
      [block.bytes.length + (encode body).length, (encode body).length] := by simp [toCome]
  have enough : Enough (toCome [block.bytes, encode body])
      (behindBlocks isExit [block, toSegment body]) := by
    have longer := Nat.lt_add_of_pos_left (n := (encode body).length) block.bytes_pos
    rw [blocks, reads, enough_cons_of_waiting (by simp) longer,
      enough_cons_of_passed (by simp) (Nat.le_refl _)]
    exact enough_of_nil _
  rw [handles, all.mpr enough]
  simp [bodies, block, toSegment, upTo, handleAll]

theorem header_block_holds_back_frame :
    let block : Segment := ⟨Utf8.encode "X: y", none⟩
    let body := "\x7b\"jsonrpc\":\"2.0\",\"id\":1,\"method\":\"shutdown\"\x7d"
    let stream := [block, toSegment body]
    (∀ segment ∈ stream, segment.Readable) ∧
      [block.bytes ++ encode body].flatten = Segment.joined stream ∧
      [block.bytes, encode body].flatten = Segment.joined stream ∧
      upTo isExit (bodies stream) = [body] ∧
      handedOver [block.bytes ++ encode body] = [] ∧
      handedOver [block.bytes, encode body] = [body] := by
  intro block body stream
  have fits : Fits body := by decide +kernel
  have readable : ∀ segment ∈ stream, segment.Readable := by
    simp [stream, block, readable_plain_block, readable_toSegment fits]
  have one : [block.bytes ++ encode body].flatten = Segment.joined stream := by
    simp [stream, Segment.joined, bytes_toSegment]
  have two : [block.bytes, encode body].flatten = Segment.joined stream := by
    simp [stream, Segment.joined, bytes_toSegment]
  have all : upTo isExit (bodies stream) = [body] := by
    simp [stream, bodies, block, toSegment, upTo]
  refine ⟨readable, one, two, all, ?_, ?_⟩
  · have left : leftoverAll isExit [block.bytes ++ encode body] stream = [toSegment body] := by
      simp [leftoverAll, leftover, stream, block]
    have parts := handedOver_leftover readable one
    rw [left, all] at parts
    simpa [bodies, toSegment, upTo] using parts
  · have left : leftoverAll isExit [block.bytes, encode body] stream = [] := by
      have first : leftover isExit (encode body).length stream = [toSegment body] := by
        have come : (Segment.joined [toSegment body]).length = (encode body).length := by
          simp [Segment.joined, bytes_toSegment]
        simp [leftover, stream, block, come]
      simpa [leftoverAll, first] using show leftover isExit 0 [toSegment body] = [] by
        simp [leftover, toSegment]
    have parts := handedOver_leftover readable two
    rw [left, all] at parts
    simpa [bodies, upTo] using parts

end Server

end PythonAssist
