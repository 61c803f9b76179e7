import PythonAssist.Proofs.Wire.Header

set_option autoImplicit false

namespace PythonAssist

structure Segment where
  front : Bytes
  body : Option String

namespace Segment

def content (segment : Segment) : Bytes := (segment.body.map Utf8.encode).getD []

def bytes (segment : Segment) : Bytes := segment.front ++ Frame.separator ++ segment.content

theorem bytes_pos (segment : Segment) : 0 < segment.bytes.length :=
  List.length_pos_of_ne_nil (by simp [bytes, Frame.separator])

-- The first blank line ends the header, which is text and announces the body with its right length,
-- or no length if there is none. The whole has a size that can be counted in 64 bits.
structure Readable (segment : Segment) : Prop where
  ended : Frame.splitHeader (segment.front ++ Frame.separator) = some (segment.front, [])
  announced : ∃ text, Utf8.decode? segment.front = some text ∧
    Frame.lengthOf (splitOn '\n' text.toList) none = .ok (segment.body.map String.utf8ByteSize)
  counted : segment.body.isSome → segment.bytes.length < Frame.lengthLimit

def joined : List Segment → Bytes
  | [] => []
  | segment :: rest => segment.bytes ++ joined rest

end Segment

namespace Frame

-- The size of the frame can be counted in 64 bits; a string in memory is smaller.
def Fits (body : String) : Prop :=
  (header body.utf8ByteSize).utf8ByteSize + 4 + body.utf8ByteSize < lengthLimit

instance (body : String) : Decidable (Fits body) := inferInstanceAs (Decidable (_ < _))

theorem length_encode (body : String) :
    (encode body).length =
      (header body.utf8ByteSize).utf8ByteSize + 4 + body.utf8ByteSize := by
  rw [encode, List.length_append, List.length_append, Utf8.length_encode, Utf8.length_encode]
  rfl

def toSegment (body : String) : Segment :=
  { front := Utf8.encode (header body.utf8ByteSize), body := some body }

theorem bytes_toSegment (body : String) : (toSegment body).bytes = encode body := rfl

theorem splitHeader_append {buffer front back : Bytes}
    (found : splitHeader buffer = some (front, back)) (more : Bytes) :
    splitHeader (buffer ++ more) = some (front, back ++ more) := by
  fun_induction splitHeader buffer generalizing front with
  | case1 rest =>
    cases found
    rfl
  | case2 b rest different ih =>
    obtain ⟨⟨inner, last⟩, split, same⟩ := Option.map_eq_some_iff.mp found
    cases same
    rw [List.cons_append, splitHeader]
    · simp [ih split]
    · -- A blank line that begins here would lie within `rest`, which has another one behind it.
      intro behind first joined
      have size := splitHeader_length split
      match rest, size, joined with
      | _ :: _ :: _ :: after, _, joined =>
        simp only [List.cons_append, List.cons.injEq] at joined
        exact different after first (by simp [joined])
  | case3 => cases found

theorem splitHeader_separator {front : Bytes} (free : 13 ∉ front) :
    splitHeader (front ++ separator) = some (front, []) := by
  induction front with
  | nil => rfl
  | cons b rest ih =>
    simp only [List.mem_cons, not_or] at free
    rw [List.cons_append, splitHeader]
    · simp [ih free.2]
    · exact fun _ same => absurd same.symm free.1

theorem Fits.size_lt {body : String} (fits : Fits body) : body.utf8ByteSize < lengthLimit :=
  Nat.lt_of_le_of_lt (Nat.le_add_left _ _) fits

theorem readable_toSegment {body : String} (fits : Fits body) : (toSegment body).Readable :=
  ⟨splitHeader_separator (Utf8.return_not_mem_encode fun _ member => mem_header member),
    ⟨_, Utf8.decode?_encode _, lengthOf_header fits.size_lt⟩,
    fun _ => by rwa [bytes_toSegment, length_encode]⟩

section Take

variable {segment : Segment}

theorem splitHeader_bytes (readable : segment.Readable) (rest : Bytes) :
    splitHeader (segment.bytes ++ rest) = some (segment.front, segment.content ++ rest) := by
  have := splitHeader_append readable.ended (segment.content ++ rest)
  simpa [Segment.bytes] using this

theorem size_of_frame {body : String} (filled : segment.body = some body) :
    segment.bytes.length = segment.front.length + 4 + body.utf8ByteSize := by
  simp [Segment.bytes, Segment.content, filled, separator, Utf8.length_encode]
  omega

theorem take_frame (readable : segment.Readable) {body : String} (filled : segment.body = some body)
    (rest : Bytes) : take (segment.bytes ++ rest) = .body body rest := by
  obtain ⟨text, decoded, announced⟩ := readable.announced
  have counted := readable.counted (by simp [filled])
  rw [size_of_frame filled] at counted
  simp [take, splitHeader_bytes readable, decoded, announced, filled, Segment.content,
    Nat.not_le_of_lt counted, Utf8.length_encode, Utf8.decode?_encode]

theorem take_block (readable : segment.Readable) (empty : segment.body = none) (rest : Bytes) :
    take (segment.bytes ++ rest) = .headerDropped rest := by
  obtain ⟨text, decoded, announced⟩ := readable.announced
  simp [take, splitHeader_bytes readable, decoded, announced, empty, Segment.content]

theorem splitHeader_part (readable : segment.Readable) {buffer missing front back : Bytes}
    (joined : segment.bytes = buffer ++ missing) (found : splitHeader buffer = some (front, back)) :
    front = segment.front ∧ segment.content = back ++ missing := by
  have whole := splitHeader_append found missing
  rw [← joined, ← List.append_nil segment.bytes, splitHeader_bytes readable] at whole
  simp only [List.append_nil, Option.some.injEq, Prod.mk.injEq] at whole
  exact ⟨whole.1.symm, whole.2⟩

theorem length_lt_of_part {body : String} (filled : segment.body = some body)
    {back missing : Bytes} (more : missing ≠ []) (content : segment.content = back ++ missing) :
    back.length < body.utf8ByteSize := by
  have size := congrArg List.length content
  have filling := List.length_pos_of_ne_nil more
  simp only [Segment.content, filled, Option.map_some, Option.getD_some, Utf8.length_encode,
    List.length_append] at size
  omega

theorem take_part (readable : segment.Readable) {buffer missing : Bytes} (more : missing ≠ [])
    (joined : segment.bytes = buffer ++ missing) : take buffer = .incomplete := by
  obtain ⟨text, decoded, announced⟩ := readable.announced
  unfold take
  split
  next => rfl
  next front back found =>
    obtain ⟨rfl, content⟩ := splitHeader_part readable joined found
    simp only [decoded, announced]
    cases filled : segment.body with
    | none =>
      rw [Segment.content, filled] at content
      exact absurd (List.append_eq_nil_iff.mp content.symm).2 more
    | some body =>
      have counted := readable.counted (by simp [filled])
      rw [size_of_frame filled] at counted
      simp [Nat.not_le_of_lt counted, length_lt_of_part filled more content]

end Take

section Feed

variable {S : Type} {step : String → S → S} {stopped : S → Bool} {segment : Segment}

theorem feed_eq (buffer : Bytes) (state : S) :
    feed step stopped buffer state =
      match take buffer with
      | .body text rest =>
        if stopped (step text state) then (rest, step text state)
        else feed step stopped rest (step text state)
      | .headerDropped rest => (rest, state)
      | .incomplete => (buffer, state)
      | .malformed _ _ | .overflow => ([], state) := by
  rw [feed]
  split <;> simp_all

theorem feed_frame (readable : segment.Readable) {body : String} (filled : segment.body = some body)
    (rest : Bytes) (state : S) :
    feed step stopped (segment.bytes ++ rest) state =
      if stopped (step body state) then (rest, step body state)
      else feed step stopped rest (step body state) := by
  rw [feed_eq, take_frame readable filled]

theorem feed_block (readable : segment.Readable) (empty : segment.body = none) (rest : Bytes)
    (state : S) : feed step stopped (segment.bytes ++ rest) state = (rest, state) := by
  rw [feed_eq, take_block readable empty]

theorem feed_part (readable : segment.Readable) {buffer missing : Bytes} (more : missing ≠ [])
    (joined : segment.bytes = buffer ++ missing) (state : S) :
    feed step stopped buffer state = (buffer, state) := by
  rw [feed_eq, take_part readable more joined]

theorem feed_nil (state : S) : feed step stopped [] state = ([], state) := by
  rw [feed_eq]
  rfl

theorem feed_map {A : Type} {note : String → A → A} {ended : A → Bool} {view : A → S}
    (steps : ∀ body seen, view (note body seen) = step body (view seen))
    (stops : ∀ seen, stopped (view seen) = ended seen) (buffer : Bytes) (seen : A) :
    feed step stopped buffer (view seen) =
      Prod.map id view (feed note ended buffer seen) := by
  fun_induction feed note ended buffer seen with
  | case1 buffer seen text rest found next stop =>
    rw [feed_eq, found]
    simp [← steps, stops, stop, next]
  | case2 buffer seen text rest found next goes ih =>
    rw [feed_eq, found]
    simp only [← steps, stops]
    rw [if_neg goes]
    exact ih
  | case3 buffer seen rest found => simp [feed_eq, found]
  | case4 buffer seen found => simp [feed_eq, found]
  | case5 buffer seen error rest found => simp [feed_eq, found]
  | case6 buffer seen found => simp [feed_eq, found]

end Feed

theorem whole_or_part {first others buffer missing : Bytes}
    (joined : buffer ++ missing = first ++ others) :
    (∃ rest, buffer = first ++ rest ∧ rest ++ missing = others) ∨
      ∃ more, more ≠ [] ∧ first = buffer ++ more ∧ missing = more ++ others := by
  cases List.append_eq_append_iff.mp joined with
  | inl short =>
    obtain ⟨more, whole, behind⟩ := short
    cases more with
    | nil => exact .inl ⟨[], by simp_all⟩
    | cons b rest => exact .inr ⟨b :: rest, by simp, whole, behind⟩
  | inr long =>
    obtain ⟨rest, whole, behind⟩ := long
    exact .inl ⟨rest, whole, behind.symm⟩

end Frame

end PythonAssist
