import PythonAssist.Proofs.Json.Likeness
import PythonAssist.Proofs.Json.Records
import PythonAssist.Proofs.TextEngine.CursorSlices
import PythonAssist.Proofs.TextEngine.Frames
import PythonAssist.Proofs.TextEngine.HandlerSlices

set_option autoImplicit false

namespace PythonAssist

namespace TextEngine

open PythonAssist.Frame

def requestId? (body : String) : Option Json :=
  (Incoming.ofText body).bind fun message => message.method.bind fun _ => message.id

theorem build_optional_ne_null (name : String) (source : Source) :
    (Reader.optional name Json.decodeAny).build source ≠ .ok (some .null) := by
  intro null
  dsimp only [Reader.optional] at null
  cases found : source.find name with
  | some value =>
    rw [found] at null
    cases value <;> cases null
  | none =>
    rw [found] at null
    cases missing : source.missing name <;>
      simp only [missing, Except.ok.injEq, reduceCtorEq] at null

theorem decode_id_ne_null {value : Json} {message : Incoming}
    (decoded : Incoming.decode value = .ok message) : message.id ≠ some .null := by
  obtain ⟨source, built⟩ := Reader.exists_build_of_decode decoded
  obtain ⟨_, params, front, -, rfl⟩ := Reader.exists_of_build_seq built
  obtain ⟨_, method, first, -, rfl⟩ := Reader.exists_of_build_seq front
  obtain ⟨id, found, rfl⟩ := Reader.exists_of_build_map first
  rintro rfl
  exact build_optional_ne_null "id" source found

theorem requestId?_ne_null (body : String) : requestId? body ≠ some .null := by
  intro null
  obtain ⟨message, read, asked⟩ := Option.bind_eq_some_iff.mp null
  obtain ⟨method, -, identified⟩ := Option.bind_eq_some_iff.mp asked
  have decoded : ∃ value, (Incoming.decode value).toOption = some message := by
    unfold Incoming.ofText at read
    repeat' split at read
    all_goals first | cases read | exact ⟨_, read⟩
  obtain ⟨value, decoded⟩ := decoded
  exact decode_id_ne_null (eq_ok_of_toOption decoded) identified

structure Answers (id response : Json) : Prop where
  id : response.get? "id" = some id
  version : response.get? "jsonrpc" = some (.string "2.0")
  outcome : (response.get? "result").isSome ≠ (response.get? "error").isSome

theorem responseToJson_answers {field : String} (outcome : field = "result" ∨ field = "error")
    (id value : Json) : Answers id (responseToJson id field value) := by
  rcases outcome with rfl | rfl <;>
    constructor <;> simp [responseToJson, Json.ofFields, Json.get?, Json.field?_insert, Json.field?]

theorem toResponse_answers {answer : Answer} (told : answer ≠ .crash) (id : Json) :
    ∃ response, answer.toResponse id = some response ∧ Answers id response := by
  cases answer with
  | crash => exact absurd rfl told
  | result => exact ⟨_, rfl, responseToJson_answers (.inl rfl) id _⟩
  | refused | failed | unknownMethod => exact ⟨_, rfl, responseToJson_answers (.inr rfl) id _⟩

section Step

variable {engine : TextEngine} {message : Incoming} {method question body : String}

def StopsOn (engine : TextEngine) (question : String) (message : Incoming) : Prop :=
  ∃ script, engine.scripts.find? ((message.natural? "handle").getD 0) = some script ∧
    script.StopsAt question ((message.natural? "line").getD 1) ((message.natural? "column").getD 0)

theorem askScript_eq_crash_iff :
    engine.askScript question message = .crash ↔ engine.StopsOn question message := by
  rw [askScript, StopsOn]
  cases engine.scripts.find? ((message.natural? "handle").getD 0) with
  | none => simp
  | some script => simp [ask_eq_crash_iff]

theorem StopsOn.known (stops : engine.StopsOn question message) :
    question = "complete" ∨ question = "signatures" := by
  obtain ⟨-, -, -, -, ⟨same, -⟩ | ⟨same, -⟩⟩ := stops
  · exact .inl same
  · exact .inr same

theorem answer_script (goes : engine.options.failOn.contains ("script/" ++ question) = false)
    (known : question = "complete" ∨ question = "signatures") :
    engine.answer ("script/" ++ question) message =
      (engine.askScript question message, engine) := by
  rcases known with rfl | rfl <;> simp only [answer, goes] <;> rfl

theorem answer_eq_crash_iff (calm : engine.options.crashOnOpen = false) :
    (engine.answer method message).1 = .crash ↔
      engine.options.failOn.contains method = false ∧
        ∃ question, method = "script/" ++ question ∧ engine.StopsOn question message := by
  constructor
  · intro crashes
    unfold answer at crashes
    cases goes : engine.options.failOn.contains method with
    | true =>
      simp only [goes, if_true] at crashes
      cases crashes
    | false =>
      simp only [goes, calm, Bool.false_eq_true, if_false] at crashes
      split at crashes
      case h_5 =>
        split at crashes
        next question found =>
          have named : method = "script/" ++ String.ofList question := by
            apply String.toList_inj.mp
            rw [stripFront_eq_some_iff.mp found, String.toList_append,
              String.toList_ofList (l := question)]
          exact ⟨rfl, _, named, askScript_eq_crash_iff.mp crashes⟩
        next => cases crashes
      all_goals cases crashes
  · rintro ⟨goes, question, rfl, stops⟩
    rw [answer_script goes stops.known]
    exact askScript_eq_crash_iff.mpr stops

theorem answer_keeps (calm : engine.options.crashOnOpen = false) (method : String)
    (message : Incoming) :
    (engine.answer method message).2.ended = engine.ended ∧
      (engine.answer method message).2.options = engine.options := by
  unfold answer
  simp only [calm, Bool.false_eq_true, if_false]
  repeat' split
  all_goals exact ⟨rfl, rfl⟩

theorem notify_keeps (engine : TextEngine) (method : String) (message : Incoming) :
    (engine.notify method message).ended = engine.ended ∧
      (engine.notify method message).options = engine.options := by
  unfold notify
  repeat' split
  all_goals exact ⟨rfl, rfl⟩

def Breaks (engine : TextEngine) (body : String) : Prop :=
  ∃ message method, Incoming.ofText body = some message ∧ message.method = some method ∧
    message.id.isSome ∧ engine.options.failOn.contains method = false ∧
      ∃ question, method = "script/" ++ question ∧ engine.StopsOn question message

structure Served (engine : TextEngine) (body : String) : Prop where
  answered : List.Forall₂ Answers (requestId? body).toList (engine.handle body).1.toList
  lives : (engine.handle body).2.ended = none
  options : (engine.handle body).2.options = engine.options

theorem handle_breaks (calm : engine.options.crashOnOpen = false) (alive : engine.ended = none)
    (breaks : engine.Breaks body) :
    (engine.handle body).1 = none ∧ (engine.handle body).2.ended = some crashCode := by
  obtain ⟨message, method, read, named, asks, stops⟩ := breaks
  obtain ⟨id, identified⟩ := Option.isSome_iff_exists.mp asks
  have crashes := (answer_eq_crash_iff calm).mpr stops
  simp [handle, read, named, identified, conclude, crashes,
    (answer_keeps calm method message).1, alive]

theorem conclude_of_told {result : Answer × TextEngine} (told : result.1 ≠ .crash) (id : Json) :
    conclude id result = (result.1.toResponse id, result.2) := by
  unfold conclude
  split
  next crashes => exact absurd crashes told
  next => rfl

theorem served_of_silent (alive : engine.ended = none) {after : TextEngine}
    (handled : engine.handle body = (none, after)) (unasked : requestId? body = none)
    (ended : after.ended = engine.ended) (options : after.options = engine.options) :
    engine.Served body := by
  constructor
  · rw [unasked, handled]
    exact .nil
  · rw [handled, ended, alive]
  · rw [handled, options]

theorem handle_served (calm : engine.options.crashOnOpen = false) (alive : engine.ended = none)
    (safe : ¬ engine.Breaks body) : engine.Served body := by
  cases read : Incoming.ofText body with
  | none =>
    exact served_of_silent alive (by simp [handle, read]) (by simp [requestId?, read]) rfl rfl
  | some message =>
    cases named : message.method with
    | none =>
      exact served_of_silent alive (by simp [handle, read, named])
        (by simp [requestId?, read, named]) rfl rfl
    | some method =>
      cases identified : message.id with
      | none =>
        have ⟨ended, options⟩ := notify_keeps engine method message
        exact served_of_silent alive (by simp [handle, read, named, identified])
          (by simp [requestId?, read, named, identified]) ended options
      | some id =>
        have goesOn : (engine.answer method message).1 ≠ .crash := fun crashes =>
          safe ⟨message, method, read, named, by simp [identified],
            (answer_eq_crash_iff calm).mp crashes⟩
        have ⟨ended, options⟩ := answer_keeps calm method message
        obtain ⟨response, told, answers⟩ := toResponse_answers goesOn id
        have handled : engine.handle body = (some response, (engine.answer method message).2) := by
          simp [handle, read, named, identified, conclude_of_told goesOn, told]
        constructor
        · simpa [handled, requestId?, read, named, identified] using answers
        · rw [handled, ended, alive]
        · rw [handled, options]

end Step

section Run

variable {engine : TextEngine} {bodies : List String}

def Unharmed : List String → TextEngine → Prop
  | [], _ => True
  | body :: rest, engine => ¬ engine.Breaks body ∧ Unharmed rest (engine.handle body).2

theorem handleAll_unharmed (calm : engine.options.crashOnOpen = false) (alive : engine.ended = none)
    (safe : Unharmed bodies engine) :
    List.Forall₂ Answers (bodies.filterMap requestId?) (handleAll bodies engine).1 ∧
      (handleAll bodies engine).2.ended = none ∧
      (handleAll bodies engine).2.options = engine.options := by
  induction bodies generalizing engine with
  | nil => exact ⟨.nil, alive, rfl⟩
  | cons body rest ih =>
    have served := handle_served calm alive safe.1
    obtain ⟨answered, lives, options⟩ := ih (by rw [served.options, calm]) served.lives safe.2
    refine ⟨?_, lives, options.trans served.options⟩
    have asked : (body :: rest).filterMap requestId? =
        (requestId? body).toList ++ rest.filterMap requestId? := by
      cases found : requestId? body <;> simp [found]
    rw [asked]
    exact List.rel_append served.answered answered

theorem exists_breaks (harmed : ¬ Unharmed bodies engine) :
    ∃ before body behind, bodies = before ++ body :: behind ∧ Unharmed before engine ∧
      (handleAll before engine).2.Breaks body := by
  induction bodies generalizing engine with
  | nil => exact absurd trivial harmed
  | cons body rest ih =>
    by_cases breaks : engine.Breaks body
    next => exact ⟨[], body, rest, rfl, trivial, breaks⟩
    next =>
      obtain ⟨before, other, behind, rfl, safe, breaksThen⟩ :=
        ih fun safe => harmed ⟨breaks, safe⟩
      exact ⟨body :: before, other, behind, rfl, ⟨breaks, safe⟩, breaksThen⟩

section Start

variable {options : TextEngineOptions} {pieces : List Bytes}

theorem feedAll_start (fits : ∀ body ∈ bodies, Fits body)
    (cut : pieces.flatten = bodies.flatMap encode)
    (lives : (handleAll bodies (start options)).2.ended = none) :
    feedAll pieces (start options) =
      ((handleAll bodies (start options)).1,
        (handleAll bodies (start options)).2.withBuffer []) :=
  feedAll_frames fits lives rfl cut

theorem feedAll_start_lives (fits : ∀ body ∈ bodies, Fits body)
    (cut : pieces.flatten = bodies.flatMap encode)
    (lives : (handleAll bodies (start options)).2.ended = none) :
    (feedAll pieces (start options)).2.ended = none := by
  rw [feedAll_start fits cut lives]
  exact lives

theorem feedAll_start_ended {before behind : List String} {body : String}
    (fits : ∀ other ∈ before ++ body :: behind, Fits other)
    (cut : pieces.flatten = (before ++ body :: behind).flatMap encode)
    (lives : (handleAll before (start options)).2.ended = none)
    (ends : ((handleAll before (start options)).2.handle body).2.ended.isSome) :
    (feedAll pieces (start options)).1 = (handleAll (before ++ [body]) (start options)).1 ∧
      (feedAll pieces (start options)).2.ended =
        (handleAll (before ++ [body]) (start options)).2.ended :=
  feedAll_frames_ended fits lives ends rfl cut

theorem feedAll_unharmed (calm : options.crashOnOpen = false) (fits : ∀ body ∈ bodies, Fits body)
    (cut : pieces.flatten = bodies.flatMap encode) (safe : Unharmed bodies (start options)) :
    (feedAll pieces (start options)).2.ended = none ∧
      List.Forall₂ Answers (bodies.filterMap requestId?) (feedAll pieces (start options)).1 := by
  obtain ⟨answered, lives, -⟩ := handleAll_unharmed calm rfl safe
  rw [feedAll_start fits cut lives]
  exact ⟨lives, answered⟩

theorem feedAll_harmed (calm : options.crashOnOpen = false) (fits : ∀ body ∈ bodies, Fits body)
    (cut : pieces.flatten = bodies.flatMap encode) (harmed : ¬ Unharmed bodies (start options)) :
    ∃ before body behind, bodies = before ++ body :: behind ∧ Unharmed before (start options) ∧
      (handleAll before (start options)).2.Breaks body ∧
      (feedAll pieces (start options)).2.ended = some crashCode ∧
      List.Forall₂ Answers (before.filterMap requestId?) (feedAll pieces (start options)).1 := by
  obtain ⟨before, body, behind, rfl, safe, breaks⟩ := exists_breaks harmed
  have calmStart : (start options).options.crashOnOpen = false := calm
  obtain ⟨answered, lives, kept⟩ := handleAll_unharmed calmStart rfl safe
  obtain ⟨silent, ended⟩ := handle_breaks (by rw [kept, calmStart]) lives breaks
  obtain ⟨responses, endedToo⟩ := feedAll_start_ended fits cut lives (by rw [ended]; rfl)
  rw [handleAll_append] at responses endedToo
  refine ⟨before, body, behind, rfl, safe, breaks, ?_, ?_⟩
  · rw [endedToo]
    exact ended
  · rw [responses]
    simpa [handleAll, silent] using answered

end Start

-- However the frames of some bodies are cut into reads, each body that asks for something gets one
-- answer in its turn and nothing else gets any, unless the engine breaks down on one of them: then
-- the bodies before it are answered, and no other. The only slices that fail are those behind a
-- character of more than one byte; all others give what the handlers go on with.
theorem requests_answered_iff_unharmed (options : TextEngineOptions)
    (calm : options.crashOnOpen = false) (bodies : List String) (fits : ∀ body ∈ bodies, Fits body)
    (pieces : List Bytes) (cut : pieces.flatten = bodies.flatMap encode) :
    ((feedAll pieces (start options)).2.ended = none ∧
        List.Forall₂ Answers (bodies.filterMap requestId?) (feedAll pieces (start options)).1 ↔
      Unharmed bodies (start options)) ∧
    (¬ Unharmed bodies (start options) →
      ∃ before body behind, bodies = before ++ body :: behind ∧ Unharmed before (start options) ∧
        (handleAll before (start options)).2.Breaks body ∧
        (feedAll pieces (start options)).2.ended = some crashCode ∧
        List.Forall₂ Answers (before.filterMap requestId?) (feedAll pieces (start options)).1) ∧
    (∀ body, requestId? body ≠ some .null) ∧
    (∀ (script : Script) (line column : Nat),
      script.complete line column = .ofSlices (script.completeSlices? line column) ∧
        script.signatures line column = .ofSlices (script.signatureSlices? line column) ∧
        (script.completeSlices? line column = none ↔ script.StopsAt "complete" line column) ∧
        (script.signatureSlices? line column = none ↔ script.StopsAt "signatures" line column)) ∧
    (∀ text column, cursorSlice? text column = some (wordAt text column)) ∧
    (∀ text word, occurrenceSlices? text word = some (occurrences text word)) ∧
    (∀ line column word, wordAt line column = some word → ∀ text value,
      replaceSlices? text word value 0 (occurrences text word) =
        some (replaceWord word value text)) ∧
    ∀ line, definitionSlices? line = some (definition line) := by
  refine ⟨⟨fun answered => ?_, feedAll_unharmed calm fits cut⟩, feedAll_harmed calm fits cut,
    requestId?_ne_null, fun script line column => ⟨script.complete_eq_slices line column,
      script.signatures_eq_slices line column, ?_, ?_⟩,
    cursorSlice?_eq, occurrenceSlices?_eq,
    fun line column word found text value => replaceSlices?_eq (wordAt_ne_nil found) value text,
    definitionSlices?_eq⟩
  · by_contra harmed
    obtain ⟨-, -, -, -, -, -, ended, -⟩ := feedAll_harmed calm fits cut harmed
    rw [answered.1] at ended
    cases ended
  · rw [← Script.complete_eq_crash_iff, Script.complete_eq_slices, Answer.ofSlices_eq_crash_iff]
  · rw [← Script.signatures_eq_crash_iff, Script.signatures_eq_slices, Answer.ofSlices_eq_crash_iff]

theorem request_behind_space_is_answered :
    let opening := "\x7b\"id\":1,\"method\":\"script/open\"," ++
      "\"params\":\x7b\"code\":\"é ab\\nabc\"\x7d\x7d"
    let asking := "\x7b\"id\":2,\"method\":\"script/complete\"," ++
      "\"params\":\x7b\"handle\":1,\"line\":1,\"column\":5\x7d\x7d"
    let bodies := [opening, "\x7b\"method\":\"x\"\x7d", asking]
    let bytes := bodies.flatMap encode
    let run := feedAll [bytes.take 72, bytes.drop 72] (start ⟨[], false⟩)
    Unharmed bodies (start ⟨[], false⟩) ∧ run.2.ended = none ∧
      (bodies.filterMap requestId?).map Json.write = ["1", "2"] ∧
      List.Forall₂ Answers (bodies.filterMap requestId?) run.1 := by
  intro opening asking bodies bytes run
  have fits : ∀ body ∈ bodies, Fits body := by decide +kernel
  have cut : [bytes.take 72, bytes.drop 72].flatten = bodies.flatMap encode := by
    rw [List.flatten_cons, List.flatten_cons, List.flatten_nil, List.append_nil,
      List.take_append_drop]
  have lives : (handleAll bodies (start ⟨[], false⟩)).2.ended = none := by decide +kernel
  have ended : run.2.ended = none := feedAll_start_lives fits cut lives
  obtain ⟨answered, broken, -⟩ :=
    requests_answered_iff_unharmed ⟨[], false⟩ rfl bodies fits _ cut
  have safe : Unharmed bodies (start ⟨[], false⟩) := by
    by_contra harmed
    obtain ⟨-, -, -, -, -, -, stopped, -⟩ := broken harmed
    cases ended.symm.trans stopped
  exact ⟨safe, ended, by decide +kernel, (answered.mpr safe).2⟩

theorem request_behind_accented_letter_ends_engine :
    let opening := "\x7b\"id\":1,\"method\":\"script/open\"," ++
      "\"params\":\x7b\"code\":\"éa\\n\"\x7d\x7d"
    let asking := "\x7b\"id\":2,\"method\":\"script/complete\"," ++
      "\"params\":\x7b\"handle\":1,\"line\":1,\"column\":3\x7d\x7d"
    let run := feedAll [encode opening ++ encode asking] (start ⟨[], false⟩)
    Fits opening ∧ Fits asking ∧
      ([opening, asking].filterMap requestId?).map Json.write = ["1", "2"] ∧
      run.1.length = 1 ∧ run.2.ended = some crashCode := by
  intro opening asking run
  have fits : ∀ body ∈ [opening] ++ asking :: [], Fits body := by decide +kernel
  have lives : (handleAll [opening] (start ⟨[], false⟩)).2.ended = none := by decide +kernel
  have ends : ((handleAll [opening] (start ⟨[], false⟩)).2.handle asking).2.ended.isSome := by
    decide +kernel
  have cut : [encode opening ++ encode asking].flatten =
      ([opening] ++ asking :: []).flatMap encode := by
    simp only [List.flatten_cons, List.flatten_nil, List.append_nil, List.singleton_append,
      List.flatMap_cons, List.flatMap_nil]
  have handled : (handleAll ([opening] ++ [asking]) (start ⟨[], false⟩)).1.length = 1 ∧
      (handleAll ([opening] ++ [asking]) (start ⟨[], false⟩)).2.ended = some crashCode := by
    decide +kernel
  obtain ⟨responses, ended⟩ := feedAll_start_ended fits cut lives ends
  exact ⟨fits _ (by simp), fits _ (by simp), by decide +kernel,
    (congrArg List.length responses).trans handled.1, ended.trans handled.2⟩

end Run

end TextEngine

end PythonAssist
