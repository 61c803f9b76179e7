import PythonAssist.Proofs.Server.Dispatch
import PythonAssist.Proofs.TextEngine.Frames
import PythonAssist.Worker.Client

set_option autoImplicit false

namespace PythonAssist

namespace Frame

section Frames

variable {final : String → Bool} {texts : List String}

theorem joined_frames : Segment.joined (texts.map toSegment) = texts.flatMap encode := by
  induction texts with
  | nil => rfl
  | cons text rest ih => simp [Segment.joined, ih, bytes_toSegment]

theorem bodies_frames : bodies (texts.map toSegment) = texts := by
  simp [bodies, List.filterMap_map, Function.comp_def, toSegment]

theorem behindBlocks_frames : behindBlocks final (texts.map toSegment) = [] := by
  induction texts with
  | nil => rfl
  | cons text rest ih => simp [behindBlocks, toSegment, ih]

theorem upTo_eq_self (goes : hasEnded final texts = false) : upTo final texts = texts := by
  induction texts with
  | nil => rfl
  | cons text rest ih =>
    simp only [hasEnded, List.any_cons, Bool.or_eq_false_iff] at goes
    simp [upTo, goes.1, ih goes.2]

theorem leftoverAll_suffix (pieces : List Bytes) (stream : List Segment) :
    leftoverAll final pieces stream <:+ stream := by
  induction pieces generalizing stream with
  | nil => exact List.suffix_refl _
  | cons piece rest ih => exact (ih _).trans (leftover_suffix _ stream)

theorem leftoverAll_frames {pieces : List Bytes} (cut : pieces.flatten = texts.flatMap encode) :
    leftoverAll final pieces (texts.map toSegment) = [] := by
  have passed : bodies (leftoverAll final pieces (texts.map toSegment)) = [] := by
    rw [bodies_leftoverAll (cut.trans joined_frames.symm), behindBlocks_frames,
      foldl_pass_eq_nil (toCome_sorted pieces) .nil]
    exact enough_of_nil _
  rw [List.eq_nil_iff_forall_not_mem]
  intro segment member
  obtain ⟨text, _, rfl⟩ := List.mem_map.mp ((leftoverAll_suffix pieces _).mem member)
  exact absurd (List.filterMap_eq_nil_iff.mp passed _ member) (by simp [toSegment])

theorem collect_frames (fits : ∀ text ∈ texts, Fits text) (goes : hasEnded final texts = false)
    {pieces : List Bytes} (cut : pieces.flatten = texts.flatMap encode) :
    collect final pieces = ([], texts) := by
  have readable : ∀ segment ∈ texts.map toSegment, segment.Readable := by
    intro segment member
    obtain ⟨text, inTexts, rfl⟩ := List.mem_map.mp member
    exact readable_toSegment (fits text inTexts)
  obtain ⟨handed, ended⟩ := collect_gotTo readable (cut.trans joined_frames.symm)
  have all : (collect final pieces).2 = texts := by
    rw [leftoverAll_frames cut, bodies_frames, upTo_eq_self goes] at handed
    simpa [bodies, upTo] using handed
  cases ended with
  | inl stop => rw [all, goes] at stop; cases stop.1
  | inr still =>
    rw [leftoverAll_frames cut, List.append_nil] at still
    exact Prod.ext still.2 all

end Frames

end Frame

namespace WorkerClient

open PythonAssist.Frame

def withBuffer (buffer : Bytes) (client : WorkerClient) : WorkerClient := { client with buffer }

theorem settle_withBuffer (buffer : Bytes) (client : WorkerClient) (id : RequestId)
    (response : ResponseMessage) :
    (client.withBuffer buffer).settle id response =
      (client.settle id response).withBuffer buffer := by
  unfold settle
  have same : (client.withBuffer buffer).waiting = client.waiting := rfl
  rw [same]
  split <;> rfl

theorem deliver_withBuffer (buffer : Bytes) (body : String) (client : WorkerClient) :
    (client.withBuffer buffer).deliver body = (client.deliver body).withBuffer buffer := by
  unfold deliver
  repeat' split
  · exact settle_withBuffer buffer client _ _
  all_goals rfl

def receiveFrom (buffer : Bytes) (pieces : List Bytes) (client : WorkerClient) :
    Bytes × WorkerClient :=
  feedAll deliver (fun _ => false) buffer pieces client

theorem receiveFrom_withBuffer (kept buffer : Bytes) (pieces : List Bytes)
    (client : WorkerClient) :
    receiveFrom buffer pieces (client.withBuffer kept) =
      Prod.map id (withBuffer kept) (receiveFrom buffer pieces client) :=
  feedAll_map (fun body client => (deliver_withBuffer kept body client).symm) (fun _ => rfl)
    pieces buffer client

theorem foldl_receive (pieces : List Bytes) (client : WorkerClient) :
    pieces.foldl receive client =
      (receiveFrom client.buffer pieces client).2.withBuffer
        (receiveFrom client.buffer pieces client).1 := by
  induction pieces generalizing client with
  | nil => rfl
  | cons piece rest ih =>
    generalize round : feed deliver (fun _ => false) (client.buffer ++ piece) client = left
    obtain ⟨buffer, next⟩ := left
    have received : client.receive piece = next.withBuffer buffer := by
      rw [receive, round]
      rfl
    have later : receiveFrom client.buffer (piece :: rest) client =
        receiveFrom buffer rest next := by
      simp only [receiveFrom, feedAll, round, Bool.false_eq_true, if_false]
    have kept : (next.withBuffer buffer).buffer = buffer := rfl
    rw [List.foldl_cons, received, ih, kept, receiveFrom_withBuffer, later]
    rfl

theorem foldl_receive_frames {texts : List String} (fits : ∀ text ∈ texts, Fits text)
    {pieces : List Bytes} (cut : pieces.flatten = texts.flatMap encode) {client : WorkerClient}
    (empty : client.buffer = []) :
    pieces.foldl receive client =
      (texts.foldl (fun client body => client.deliver body) client).withBuffer [] := by
  have goes (seen : List String) : hasEnded (fun _ => false) seen = false := by simp [hasEnded]
  have run : receiveFrom [] pieces client = _ :=
    feedAll_eq_collect (fun seen => (goes seen).symm) pieces
  rw [foldl_receive, empty, run, collect_frames fits (goes texts) cut]

end WorkerClient

-- However the frames of some bodies are cut into reads, the server, the client of a worker and
-- the text engine take exactly these bodies in their order, and nothing is left over.
theorem frames_survive_cutting (bodies : List String) (fits : ∀ body ∈ bodies, Frame.Fits body)
    (pieces : List Bytes) (cut : pieces.flatten = bodies.flatMap Frame.encode) :
    (∀ (S : Type) (handler : Handler S) (server : Server S), server.exited = false →
      (∀ body ∈ bodies, Server.isExit body = false) →
        Server.handedOver pieces = bodies ∧
          Frame.feedAll (Server.handle handler) Server.exited [] pieces server =
            ([], Server.handleAll handler bodies server) ∧
          Server.run handler pieces server = Server.handleAll handler bodies server) ∧
    (∀ client : WorkerClient, client.buffer = [] →
      pieces.foldl WorkerClient.receive client =
        (bodies.foldl (fun client body => client.deliver body) client).withBuffer []) ∧
    ∀ engine : TextEngine, engine.buffer = [] →
      (TextEngine.handleAll bodies engine).2.ended = none →
        TextEngine.feedAll pieces engine =
          ((TextEngine.handleAll bodies engine).1,
            (TextEngine.handleAll bodies engine).2.withBuffer []) := by
  refine ⟨fun S handler server running goes => ?_, fun client empty => ?_,
    fun engine empty lives => ?_⟩
  · have collected : Frame.collect Server.isExit pieces = ([], bodies) :=
      Frame.collect_frames fits (by simpa [Frame.hasEnded] using goes) cut
    have handed : Server.handedOver pieces = bodies := by rw [Server.handedOver, collected]
    refine ⟨handed, ?_, ?_⟩
    · rw [Server.feedAll_handle handler pieces running, handed, collected]
    · rw [Server.run_eq handler pieces running, handed]
  · exact WorkerClient.foldl_receive_frames fits cut empty
  · exact TextEngine.feedAll_frames fits lives (by rw [empty]; rfl) (by rwa [empty])

theorem lookalikes_survive_cutting :
    let bodies := ["\r\n\r\n", "Content-Length: 3\r\n\r\né",
      "\x7b\"id\":1,\"method\":\"initialize\"\x7d"]
    let bytes := bodies.flatMap Frame.encode
    let pieces := [bytes.take 17, (bytes.drop 17).take 48, (bytes.drop 17).drop 48]
    Server.handedOver pieces = bodies ∧
      pieces.foldl WorkerClient.receive WorkerClient.fresh =
        (bodies.foldl (fun client body => WorkerClient.deliver body client)
          WorkerClient.fresh).withBuffer [] ∧
      (TextEngine.feedAll pieces (TextEngine.start ⟨[], false⟩)).1 ≠ [] := by
  intro bodies bytes pieces
  have fits : ∀ body ∈ bodies, Frame.Fits body := by decide +kernel
  have cut : pieces.flatten = bodies.flatMap Frame.encode := by
    simp only [pieces, List.flatten_cons, List.flatten_nil, List.append_nil, List.take_append_drop]
    rfl
  have goes : ∀ body ∈ bodies, Server.isExit body = false := by decide +kernel
  have lives : (TextEngine.handleAll bodies (TextEngine.start ⟨[], false⟩)).2.ended = none := by
    decide +kernel
  have answered : (TextEngine.handleAll bodies (TextEngine.start ⟨[], false⟩)).1 ≠ [] := by
    decide +kernel
  obtain ⟨server, client, engine⟩ := frames_survive_cutting bodies fits pieces cut
  have handed := (server Unit .idle (Server.start ()) rfl goes).1
  have delivered := client WorkerClient.fresh rfl
  have fed := engine (TextEngine.start ⟨[], false⟩) rfl lives
  have responses : (TextEngine.feedAll pieces (TextEngine.start ⟨[], false⟩)).1 =
      (TextEngine.handleAll bodies (TextEngine.start ⟨[], false⟩)).1 := by rw [fed]
  refine ⟨handed, delivered, ?_⟩
  rw [responses]
  exact answered

-- A text engine that breaks down on opening does not take the next body, which it would answer.
theorem breakdown_keeps_frame_back :
    let opening := "\x7b\"id\":1,\"method\":\"script/open\"\x7d"
    let asking := "\x7b\"id\":2,\"method\":\"initialize\"\x7d"
    let engine := TextEngine.start ⟨[], true⟩
    let run := TextEngine.feedAll [Frame.encode opening ++ Frame.encode asking] engine
    Frame.Fits opening ∧ Frame.Fits asking ∧ run.1 = [] ∧ run.2.ended = some 1 ∧
      (TextEngine.handleAll [opening, asking] engine).1 ≠ [] := by
  intro opening asking engine run
  have fits : Frame.Fits opening := by decide +kernel
  have ended : (engine.handle opening).2.ended = some 1 := by decide +kernel
  have silent : (engine.handle opening).1.toList = [] := by decide +kernel
  have fed : run = ((engine.handle opening).1.toList, (engine.handle opening).2) :=
    TextEngine.feedAll_ended fits rfl rfl (by rw [ended]; rfl) _ _
  refine ⟨fits, by decide +kernel, ?_, ?_, by decide +kernel⟩
  · rw [fed]
    exact silent
  · rw [fed]
    exact ended

end PythonAssist
