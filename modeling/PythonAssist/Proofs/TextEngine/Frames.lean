import PythonAssist.Proofs.Wire.Stream

set_option autoImplicit false

namespace PythonAssist

namespace TextEngine

open PythonAssist.Frame

def feedAll : List Bytes → TextEngine → List Json × TextEngine
  | [], engine => ([], engine)
  | piece :: rest, engine =>
    if engine.ended.isSome then ([], engine)
    else
      let (responses, engine) := engine.feed piece
      let (others, engine) := feedAll rest engine
      (responses ++ others, engine)

def handleAll : List String → TextEngine → List Json × TextEngine
  | [], engine => ([], engine)
  | body :: rest, engine =>
    let (response, engine) := engine.handle body
    let (others, engine) := handleAll rest engine
    (response.toList ++ others, engine)

theorem header_announces {body : String} (fits : Fits body) :
    ((Utf8.decode? (toSegment body).front).bind fun text =>
      lengthOf (splitOn '\n' text.toList) none) = some body.utf8ByteSize := by
  rw [toSegment, Utf8.decode?_encode, Option.bind_some, lengthOf_header fits.size_lt]

theorem size_in_range {body : String} (fits : Fits body) :
    ¬ lengthLimit ≤ (toSegment body).front.length + 4 + body.utf8ByteSize := by
  rw [toSegment, Utf8.length_encode]
  exact Nat.not_le_of_lt fits

theorem front_frame {body : String} (fits : Fits body) (rest : Bytes) :
    front (encode body ++ rest) = .body body rest := by
  have found := splitHeader_bytes (readable_toSegment fits) rest
  rw [bytes_toSegment] at found
  rw [front, found]
  simp only [header_announces fits, cut, if_neg (size_in_range fits)]
  simp [toSegment, Segment.content, Utf8.length_encode, Utf8.decode?_encode]

theorem front_part {body : String} (fits : Fits body) {buffer missing : Bytes}
    (more : missing ≠ []) (joined : encode body = buffer ++ missing) : front buffer = .waiting := by
  unfold front
  split
  next => rfl
  next header back found =>
    obtain ⟨rfl, content⟩ := splitHeader_part (readable_toSegment fits) joined found
    have short := length_lt_of_part rfl more content
    simp [header_announces fits, cut, if_neg (size_in_range fits), short]

theorem handleAll_append (now later : List String) (engine : TextEngine) :
    handleAll (now ++ later) engine =
      ((handleAll now engine).1 ++ (handleAll later (handleAll now engine).2).1,
        (handleAll later (handleAll now engine).2).2) := by
  induction now generalizing engine with
  | nil => rfl
  | cons body rest ih => simp [handleAll, ih]

def withBuffer (buffer : Bytes) (engine : TextEngine) : TextEngine := { engine with buffer }

theorem answer_withBuffer (buffer : Bytes) (engine : TextEngine) (method : String)
    (message : Incoming) :
    (engine.withBuffer buffer).answer method message =
      ((engine.answer method message).1, (engine.answer method message).2.withBuffer buffer) := by
  have same : (engine.withBuffer buffer).options = engine.options := rfl
  unfold answer
  rw [same]
  by_cases fails : engine.options.failOn.contains method
  next => simp only [fails, if_true]
  next =>
    simp only [fails, Bool.false_eq_true, if_false]
    split
    next => rfl
    next => by_cases crashes : engine.options.crashOnOpen <;> simp [crashes, openScript, withBuffer]
    next => rfl
    next => rfl
    next => split <;> rfl

theorem notify_withBuffer (buffer : Bytes) (engine : TextEngine) (method : String)
    (message : Incoming) :
    (engine.withBuffer buffer).notify method message =
      (engine.notify method message).withBuffer buffer := by
  unfold notify
  repeat' split
  all_goals rfl

theorem handle_withBuffer (buffer : Bytes) (engine : TextEngine) (body : String) :
    (engine.withBuffer buffer).handle body =
      ((engine.handle body).1, (engine.handle body).2.withBuffer buffer) := by
  unfold handle
  split
  next => rfl
  next message _ =>
    cases message.method with
    | none => rfl
    | some method =>
      cases message.id with
      | none => simp [notify_withBuffer]
      | some id =>
        simp only [conclude, answer_withBuffer]
        split <;> rfl

theorem answer_lives {engine : TextEngine} {method : String} {message : Incoming}
    (lives : (engine.answer method message).2.ended = none) : engine.ended = none := by
  unfold answer at lives
  repeat' split at lives
  all_goals first | exact lives | cases lives

theorem handle_lives {engine : TextEngine} {body : String}
    (lives : (engine.handle body).2.ended = none) : engine.ended = none := by
  unfold handle at lives
  split at lives
  next => exact lives
  next message _ =>
    split at lives
    next => exact lives
    next =>
      unfold notify at lives
      repeat' split at lives
      all_goals exact lives
    next =>
      unfold conclude at lives
      split at lives
      next => cases lives
      next => exact answer_lives lives

theorem handleAll_lives {bodies : List String} {engine : TextEngine}
    (lives : (handleAll bodies engine).2.ended = none) : engine.ended = none := by
  induction bodies generalizing engine with
  | nil => exact lives
  | cons body rest ih => exact handle_lives (ih lives)

theorem handleAll_withBuffer (buffer : Bytes) (bodies : List String) (engine : TextEngine) :
    handleAll bodies (engine.withBuffer buffer) =
      ((handleAll bodies engine).1, (handleAll bodies engine).2.withBuffer buffer) := by
  induction bodies generalizing engine with
  | nil => rfl
  | cons body rest ih => simp [handleAll, handle_withBuffer, ih]

theorem serve_waiting {engine : TextEngine} {buffer : Bytes} (waits : front buffer = .waiting) :
    engine.serve buffer = ([], engine.withBuffer buffer) := by
  rw [serve]
  split <;> simp_all [withBuffer]

theorem serve_frame {body : String} (fits : Fits body) (engine : TextEngine) (rest : Bytes) :
    engine.serve (encode body ++ rest) =
      if (engine.handle body).2.ended.isSome then
        ((engine.handle body).1.toList, (engine.handle body).2)
      else
        ((engine.handle body).1.toList ++ ((engine.handle body).2.serve rest).1,
          ((engine.handle body).2.serve rest).2) := by
  rw [serve]
  split <;> simp_all [front_frame fits]

theorem feedAll_of_ended {engine : TextEngine} (ended : engine.ended.isSome) (pieces : List Bytes) :
    feedAll pieces engine = ([], engine) := by
  cases pieces <;> simp [feedAll, ended]

theorem feedAll_ended {body : String} (fits : Fits body) {engine : TextEngine}
    (empty : engine.buffer = []) (alive : engine.ended = none)
    (ends : (engine.handle body).2.ended.isSome) (rest : Bytes) (later : List Bytes) :
    feedAll ((encode body ++ rest) :: later) engine =
      ((engine.handle body).1.toList, (engine.handle body).2) := by
  simp [feedAll, alive, feed, empty, serve_frame fits, ends, feedAll_of_ended ends]

theorem serve_frames {bodies : List String} (fits : ∀ body ∈ bodies, Fits body)
    {engine : TextEngine} (lives : (handleAll bodies engine).2.ended = none)
    {buffer missing : Bytes} (cut : buffer ++ missing = bodies.flatMap encode) :
    ∃ now later rest, bodies = now ++ later ∧ front rest = .waiting ∧
      rest ++ missing = later.flatMap encode ∧
      engine.serve buffer =
        ((handleAll now engine).1, (handleAll now engine).2.withBuffer rest) := by
  induction bodies generalizing engine buffer with
  | nil =>
    obtain ⟨rfl, rfl⟩ := List.append_eq_nil_iff.mp cut
    exact ⟨[], [], [], rfl, rfl, rfl, serve_waiting rfl⟩
  | cons body behind ih =>
    have first := fits body List.mem_cons_self
    have others := fun other member => fits other (List.mem_cons_of_mem _ member)
    rw [List.flatMap_cons] at cut
    obtain ⟨come, rfl, remaining⟩ | ⟨more, filled, whole, rfl⟩ := whole_or_part cut
    next =>
      have livesOn : (handleAll behind (engine.handle body).2).2.ended = none := lives
      obtain ⟨now, later, rest, rfl, waits, left, served⟩ := ih others livesOn remaining
      have goes : (engine.handle body).2.ended.isSome = false := by
        rw [handleAll_lives livesOn]
        rfl
      refine ⟨body :: now, later, rest, rfl, waits, left, ?_⟩
      rw [serve_frame first, goes, served]
      rfl
    next =>
      have waits := front_part first filled whole
      exact ⟨[], body :: behind, buffer, rfl, waits, cut, serve_waiting waits⟩

theorem feedAll_frames {pieces : List Bytes} {bodies : List String}
    (fits : ∀ body ∈ bodies, Fits body) {engine : TextEngine}
    (lives : (handleAll bodies engine).2.ended = none) (waits : front engine.buffer = .waiting)
    (cut : engine.buffer ++ pieces.flatten = bodies.flatMap encode) :
    feedAll pieces engine =
      ((handleAll bodies engine).1, (handleAll bodies engine).2.withBuffer []) := by
  induction pieces generalizing engine bodies with
  | nil =>
    rw [List.flatten_nil, List.append_nil] at cut
    cases bodies with
    | nil =>
      have same : engine.withBuffer [] = engine := by rw [withBuffer, ← List.flatMap_nil, ← cut]
      simp [feedAll, handleAll, same]
    | cons body rest =>
      rw [cut, List.flatMap_cons, front_frame (fits body List.mem_cons_self)] at waits
      cases waits
  | cons piece others ih =>
    have goes : engine.ended.isSome = false := by
      rw [handleAll_lives lives]
      rfl
    rw [List.flatten_cons, ← List.append_assoc] at cut
    obtain ⟨now, later, rest, rfl, waits, left, served⟩ := serve_frames fits lives cut
    rw [handleAll_append] at lives
    have livesOn : (handleAll later ((handleAll now engine).2.withBuffer rest)).2.ended = none := by
      rw [handleAll_withBuffer]
      exact lives
    have fitting := fun body member => fits body (List.mem_append_right now member)
    have fed := ih fitting livesOn waits left
    rw [handleAll_withBuffer] at fed
    simp only [feedAll, goes, feed, served, fed, handleAll_append]
    rfl

section Ended

variable {before behind : List String} {body : String}

theorem serve_frames_ended (fits : ∀ other ∈ before ++ body :: behind, Fits other)
    {engine : TextEngine} (lives : (handleAll before engine).2.ended = none)
    (ends : ((handleAll before engine).2.handle body).2.ended.isSome)
    {buffer missing : Bytes} (cut : buffer ++ missing = (before ++ body :: behind).flatMap encode) :
    (∃ now later rest, before = now ++ later ∧ front rest = .waiting ∧
      rest ++ missing = (later ++ body :: behind).flatMap encode ∧
      engine.serve buffer =
        ((handleAll now engine).1, (handleAll now engine).2.withBuffer rest)) ∨
      engine.serve buffer = handleAll (before ++ [body]) engine := by
  induction before generalizing engine buffer with
  | nil =>
    have first := fits body List.mem_cons_self
    rw [List.nil_append, List.flatMap_cons] at cut
    obtain ⟨come, rfl, -⟩ | ⟨more, filled, whole, rfl⟩ := whole_or_part cut
    next =>
      have endsHere : (engine.handle body).2.ended.isSome := ends
      right
      rw [serve_frame first, if_pos endsHere]
      simp [handleAll]
    next =>
      have waits := front_part first filled whole
      exact .inl ⟨[], [], buffer, rfl, waits, cut, serve_waiting waits⟩
  | cons other before ih =>
    have first := fits other List.mem_cons_self
    have others := fun next member => fits next (List.mem_cons_of_mem _ member)
    rw [List.cons_append, List.flatMap_cons] at cut
    obtain ⟨come, rfl, remaining⟩ | ⟨more, filled, whole, rfl⟩ := whole_or_part cut
    next =>
      have livesOn : (handleAll before (engine.handle other).2).2.ended = none := lives
      have goes : (engine.handle other).2.ended.isSome = false := by
        rw [handleAll_lives livesOn]
        rfl
      obtain ⟨now, later, rest, rfl, waits, left, served⟩ | served :=
        ih others livesOn ends remaining
      next =>
        refine .inl ⟨other :: now, later, rest, rfl, waits, left, ?_⟩
        rw [serve_frame first, goes, served]
        rfl
      next =>
        right
        rw [serve_frame first, goes, served]
        rfl
    next =>
      have waits := front_part first filled whole
      exact .inl ⟨[], other :: before, buffer, rfl, waits, cut, serve_waiting waits⟩

theorem feedAll_frames_ended {pieces : List Bytes}
    (fits : ∀ other ∈ before ++ body :: behind, Fits other) {engine : TextEngine}
    (lives : (handleAll before engine).2.ended = none)
    (ends : ((handleAll before engine).2.handle body).2.ended.isSome)
    (waits : front engine.buffer = .waiting)
    (cut : engine.buffer ++ pieces.flatten = (before ++ body :: behind).flatMap encode) :
    (feedAll pieces engine).1 = (handleAll (before ++ [body]) engine).1 ∧
      (feedAll pieces engine).2.ended = (handleAll (before ++ [body]) engine).2.ended := by
  induction pieces generalizing engine before with
  | nil =>
    rw [List.flatten_nil, List.append_nil] at cut
    obtain ⟨first, others, same⟩ : ∃ first others, before ++ body :: behind = first :: others :=
      List.exists_cons_of_ne_nil (by simp)
    rw [same] at fits cut
    rw [cut, List.flatMap_cons, front_frame (fits first List.mem_cons_self)] at waits
    cases waits
  | cons piece pieces ih =>
    have goes : engine.ended.isSome = false := by
      rw [handleAll_lives lives]
      rfl
    rw [List.flatten_cons, ← List.append_assoc] at cut
    obtain ⟨now, later, rest, rfl, waits, left, served⟩ | served :=
      serve_frames_ended fits lives ends cut
    next =>
      rw [handleAll_append] at lives ends
      have fitting : ∀ other ∈ later ++ body :: behind, Fits other := by
        intro other member
        exact fits other (by rw [List.append_assoc]; exact List.mem_append_right now member)
      have livesOn : (handleAll later ((handleAll now engine).2.withBuffer rest)).2.ended = none := by
        rw [handleAll_withBuffer]
        exact lives
      have endsThen : ((handleAll later ((handleAll now engine).2.withBuffer rest)).2.handle
          body).2.ended.isSome := by
        rw [handleAll_withBuffer, handle_withBuffer]
        exact ends
      obtain ⟨responses, ended⟩ := ih fitting livesOn endsThen waits left
      rw [handleAll_withBuffer] at responses ended
      rw [List.append_assoc, handleAll_append]
      simp only [feedAll, goes, feed, served]
      exact ⟨congrArg _ responses, ended⟩
    next =>
      have stopped : (handleAll (before ++ [body]) engine).2.ended.isSome := by
        rw [handleAll_append]
        exact ends
      simp [feedAll, goes, feed, served, feedAll_of_ended stopped]

end Ended

end TextEngine

end PythonAssist
