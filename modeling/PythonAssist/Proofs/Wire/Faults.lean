import PythonAssist.Proofs.Wire.Parsing

set_option autoImplicit false

namespace PythonAssist

inductive Overflow where
  | stops
  | wraps
  deriving DecidableEq, Repr

def Overflow.sum (overflow : Overflow) (a b : Nat) : Option Nat :=
  if a + b < Frame.lengthLimit then some (a + b)
  else
    match overflow with
    | .stops => none
    | .wraps => some ((a + b) % Frame.lengthLimit)

namespace Overflow

theorem sum_fits {a b : Nat} (fits : a + b < Frame.lengthLimit) (overflow : Overflow) :
    overflow.sum a b = some (a + b) :=
  if_pos fits

theorem sum_huge {a b : Nat} (first : a < Frame.lengthLimit) (second : b < Frame.lengthLimit)
    (huge : Frame.lengthLimit ≤ a + b) (overflow : Overflow) :
    overflow.sum a b = none ∨ ∃ total, overflow.sum a b = some total ∧ total < a := by
  unfold sum
  rw [if_neg (Nat.not_lt.mpr huge)]
  cases overflow with
  | stops => exact .inl rfl
  | wraps =>
    have wrapped : (a + b) % Frame.lengthLimit = a + b - Frame.lengthLimit := by
      rw [Nat.mod_eq_sub_mod huge, Nat.mod_eq_of_lt (by omega)]
    exact .inr ⟨_, rfl, by omega⟩

end Overflow

theorem unsigned?_lt {limit n : Nat} {text : List Char} (read : unsigned? limit text = some n) :
    n < limit := by
  obtain ⟨digits, -, -, -, -, below⟩ := unsigned?_eq_some.mp read
  exact below

section Cutting

def splitTo? (count : Nat) (buffer : Bytes) : Option (Bytes × Bytes) :=
  if count ≤ buffer.length then some (buffer.take count, buffer.drop count) else none

def advance? (count : Nat) (buffer : Bytes) : Option Bytes :=
  (splitTo? count buffer).map Prod.snd

def slice? (start stop : Nat) (buffer : Bytes) : Option Bytes :=
  if start ≤ stop ∧ stop ≤ buffer.length then some ((buffer.take stop).drop start) else none

theorem splitTo?_append (front back : Bytes) :
    splitTo? front.length (front ++ back) = some (front, back) := by
  rw [splitTo?, if_pos (by simp), List.take_left, List.drop_left]

theorem splitTo?_beyond {count : Nat} {buffer : Bytes} (beyond : buffer.length < count) :
    splitTo? count buffer = none :=
  if_neg (Nat.not_le.mpr beyond)

theorem advance?_append (front back : Bytes) :
    advance? front.length (front ++ back) = some back := by
  rw [advance?, splitTo?_append]
  rfl

theorem slice?_append (front middle back : Bytes) :
    slice? front.length (front.length + middle.length) (front ++ middle ++ back) =
      some middle := by
  have whole : (front ++ middle).length = front.length + middle.length := List.length_append
  rw [slice?, ← whole, if_pos (by simp), List.take_left, List.drop_left]

theorem slice?_inverted {start stop : Nat} {buffer : Bytes} (inverted : stop < start) :
    slice? start stop buffer = none :=
  if_neg fun ordered => Nat.not_le.mpr inverted ordered.1

end Cutting

namespace Frame

def takeStepwise (overflow : Overflow) (buffer : Bytes) : Option Taken :=
  match splitHeader buffer with
  | none => some .incomplete
  | some (front, _) =>
    match Utf8.decode? front with
    | none => some (.malformed .headerNotText buffer)
    | some header =>
      match lengthOf (splitOn '\n' header.toList) none with
      | .error e => some (.malformed e buffer)
      | .ok none => do
        let behind ← overflow.sum front.length 4
        let rest ← advance? behind buffer
        return .headerDropped rest
      | .ok (some length) => do
        let behind ← overflow.sum front.length 4
        let total ← overflow.sum behind length
        if buffer.length < total then return .incomplete
        let rest ← advance? behind buffer
        let (content, rest) ← splitTo? length rest
        match Utf8.decode? content with
        | some text => return .body text rest
        | none => return .malformed (.bodyNotText ((Utf8.fault? content).getD ⟨0, none⟩)) rest

def Beyond (buffer : Bytes) : Prop :=
  ∃ header back length, HeaderEnds buffer (Utf8.encode header) back ∧
    Announces header (some length) ∧ lengthLimit ≤ (Utf8.encode header).length + 4 + length

theorem take_eq_overflow_iff {buffer : Bytes} : take buffer = .overflow ↔ Beyond buffer := by
  rw [take_eq_iff]
  constructor
  · intro parses
    cases parses with
    | beyond header back length ends announces huge =>
      exact ⟨header, back, length, ends, announces, huge⟩
  · rintro ⟨header, back, length, ends, announces, huge⟩
    exact .beyond header back length ends announces huge

theorem HeaderEnds.length_eq {buffer front back : Bytes} (ends : HeaderEnds buffer front back) :
    buffer.length = front.length + 4 + back.length :=
  splitHeader_length (splitHeader_eq_some_iff.mpr ends)

theorem HeaderEnds.advance? {buffer front back : Bytes} (ends : HeaderEnds buffer front back) :
    PythonAssist.advance? (front.length + 4) buffer = some back := by
  have size : (front ++ separator).length = front.length + 4 := List.length_append
  rw [ends.joined, ← size, advance?_append]

theorem Announces.length_lt {header : String} {length : Nat}
    (announces : Announces header (some length)) : length < lengthLimit := by
  obtain ⟨word, -, read⟩ := Option.bind_eq_some_iff.mp announces.2
  exact unsigned?_lt read

theorem takeStepwise_of_announces {buffer back : Bytes} {header : String} {length : Nat}
    (ends : HeaderEnds buffer (Utf8.encode header) back)
    (announces : Announces header (some length)) (held : buffer.length < lengthLimit)
    (overflow : Overflow) :
    takeStepwise overflow buffer =
      (overflow.sum ((Utf8.encode header).length + 4) length).bind fun total =>
        if buffer.length < total then some .incomplete
        else (splitTo? length back).bind fun (content, rest) =>
          match Utf8.decode? content with
          | some text => some (.body text rest)
          | none =>
            some (.malformed (.bodyNotText ((Utf8.fault? content).getD ⟨0, none⟩)) rest) := by
  have read := lengthOf_ok announces.1 none
  rw [← lengthWords, announces.2, Option.or_none] at read
  have size := ends.length_eq
  have behind := Overflow.sum_fits (show (Utf8.encode header).length + 4 < lengthLimit by omega)
    overflow
  simp only [takeStepwise, splitHeader_eq_some_iff.mpr ends, Utf8.decode?_encode, read, behind,
    ends.advance?, Option.bind_eq_bind, Option.bind_some, Option.pure_def]

theorem takeStepwise_eq {buffer : Bytes} (held : buffer.length < lengthLimit)
    (overflow : Overflow) :
    takeStepwise overflow buffer =
      if take buffer = .overflow then none else some (take buffer) := by
  have parses := take_eq_iff.mp (rfl : take buffer = take buffer)
  generalize take buffer = taken at parses
  cases parses with
  | noHeader none => simp [takeStepwise, splitHeader_eq_none_iff.mpr none]
  | headerNotText front back ends noText =>
    simp [takeStepwise, splitHeader_eq_some_iff.mpr ends, Utf8.decode?_eq_none_iff.mpr noText]
  | badLength header back word ends said bad =>
    simp [takeStepwise, splitHeader_eq_some_iff.mpr ends, Utf8.decode?_encode,
      lengthOf_bad said bad none]
  | noLength header back ends announces =>
    have read := lengthOf_ok announces.1 none
    rw [← lengthWords, announces.2, Option.or_none] at read
    have size := ends.length_eq
    have behind := Overflow.sum_fits
      (show (Utf8.encode header).length + 4 < lengthLimit by omega) overflow
    simp [takeStepwise, splitHeader_eq_some_iff.mpr ends, Utf8.decode?_encode, read, behind,
      ends.advance?]
  | beyond header back length ends announces huge =>
    have size := ends.length_eq
    rw [takeStepwise_of_announces ends announces held overflow, if_pos rfl]
    -- After a sum that has wrapped the body is cut off beyond the end of the buffer.
    rcases Overflow.sum_huge (by omega) announces.length_lt huge overflow with
      stopped | ⟨total, wrapped, small⟩
    next => rw [stopped, Option.bind_none]
    next =>
      rw [wrapped, Option.bind_some, if_neg (by omega), splitTo?_beyond (by omega),
        Option.bind_none]
  | short header back length ends announces fits missing =>
    have size := ends.length_eq
    rw [takeStepwise_of_announces ends announces held overflow, Overflow.sum_fits fits,
      Option.bind_some, if_pos (by omega), if_neg (by simp)]
  | body header body rest ends announces fits =>
    have size := ends.length_eq
    rw [List.length_append] at size
    rw [takeStepwise_of_announces ends announces held overflow, Overflow.sum_fits fits,
      Option.bind_some, if_neg (by omega), splitTo?_append, Option.bind_some, if_neg (by simp)]
    simp only [Utf8.decode?_encode]
  | bodyNotText header content rest ends announces fits noText =>
    have size := ends.length_eq
    rw [List.length_append] at size
    rw [takeStepwise_of_announces ends announces held overflow, Overflow.sum_fits fits,
      Option.bind_some, if_neg (by omega), splitTo?_append, Option.bind_some, if_neg (by simp)]
    simp only [Utf8.decode?_eq_none_iff.mpr noText]

end Frame

namespace TextEngine

open PythonAssist.Frame

def frontStepwise (overflow : Overflow) (buffer : Bytes) : Option Front :=
  match splitHeader buffer with
  | none => some .waiting
  | some (header, _) =>
    match (Utf8.decode? header).bind fun text => lengthOf (splitOn '\n' text.toList) none with
    | none => some .waiting
    | some length => do
      let behind ← overflow.sum header.length 4
      let total ← overflow.sum behind length
      if buffer.length < total then return .waiting
      let content ← slice? behind total buffer
      match Utf8.decode? content with
      | none => return .waiting
      | some text => return .body text (buffer.drop total)

def Beyond (buffer : Bytes) : Prop :=
  ∃ header back length, HeaderEnds buffer (Utf8.encode header) back ∧ Announces header length ∧
    lengthLimit ≤ (Utf8.encode header).length + 4 + length

theorem front_eq_overflow_iff {buffer : Bytes} : front buffer = .overflow ↔ Beyond buffer := by
  rw [front_eq_iff]
  constructor
  · intro parses
    cases parses with
    | beyond header back length ends announces huge =>
      exact ⟨header, back, length, ends, announces, huge⟩
  · rintro ⟨header, back, length, ends, announces, huge⟩
    exact .beyond header back length ends announces huge

theorem Announces.length_lt {header : String} {length : Nat}
    (announces : Announces header length) : length < lengthLimit := by
  obtain ⟨word, -, read⟩ := Option.bind_eq_some_iff.mp announces
  exact unsigned?_lt read

theorem frontStepwise_of_announces {buffer back : Bytes} {header : String} {length : Nat}
    (ends : HeaderEnds buffer (Utf8.encode header) back) (announces : Announces header length)
    (held : buffer.length < lengthLimit) (overflow : Overflow) :
    frontStepwise overflow buffer =
      (overflow.sum ((Utf8.encode header).length + 4) length).bind fun total =>
        if buffer.length < total then some .waiting
        else (slice? ((Utf8.encode header).length + 4) total buffer).bind fun content =>
          match Utf8.decode? content with
          | none => some .waiting
          | some text => some (.body text (buffer.drop total)) := by
  have size := ends.length_eq
  have behind := Overflow.sum_fits (show (Utf8.encode header).length + 4 < lengthLimit by omega)
    overflow
  have read : (lengthWords header).getLast?.bind (unsigned? lengthLimit) = some length := announces
  simp only [frontStepwise, splitHeader_eq_some_iff.mpr ends, Utf8.decode?_encode,
    Option.bind_eq_bind, Option.bind_some, lengthOf_header_eq, read, behind, Option.pure_def]

theorem sliced {buffer front content rest : Bytes} (ends : HeaderEnds buffer front (content ++ rest)) :
    slice? (front.length + 4) (front.length + 4 + content.length) buffer = some content ∧
      buffer.drop (front.length + 4 + content.length) = rest := by
  have size : (front ++ separator).length = front.length + 4 := List.length_append
  have joined := ends.joined
  rw [← List.append_assoc] at joined
  rw [← size, joined, slice?_append, ← List.length_append, List.drop_left]
  exact ⟨rfl, rfl⟩

theorem frontStepwise_eq {buffer : Bytes} (held : buffer.length < lengthLimit)
    (overflow : Overflow) :
    frontStepwise overflow buffer =
      if front buffer = .overflow then none else some (front buffer) := by
  have parses := front_eq_iff.mp (rfl : front buffer = front buffer)
  generalize front buffer = found at parses
  cases parses with
  | noHeader none => simp [frontStepwise, splitHeader_eq_none_iff.mpr none]
  | headerNotText front back ends noText =>
    simp [frontStepwise, splitHeader_eq_some_iff.mpr ends, Utf8.decode?_eq_none_iff.mpr noText]
  | noLength header back ends none =>
    have nothing := Option.eq_none_iff_forall_ne_some.mpr none
    simp [frontStepwise, splitHeader_eq_some_iff.mpr ends, Utf8.decode?_encode, lengthOf_header_eq,
      nothing]
  | beyond header back length ends announces huge =>
    have size := ends.length_eq
    rw [frontStepwise_of_announces ends announces held overflow, if_pos rfl]
    -- After a sum that has wrapped the body would end before it begins.
    rcases Overflow.sum_huge (by omega) announces.length_lt huge overflow with
      stopped | ⟨total, wrapped, small⟩
    next => rw [stopped, Option.bind_none]
    next =>
      rw [wrapped, Option.bind_some, if_neg (by omega), slice?_inverted small, Option.bind_none]
  | short header back length ends announces fits missing =>
    have size := ends.length_eq
    rw [frontStepwise_of_announces ends announces held overflow, Overflow.sum_fits fits,
      Option.bind_some, if_pos (by omega), if_neg (by simp)]
  | body header body rest ends announces fits =>
    have size := ends.length_eq
    rw [List.length_append] at size
    rw [frontStepwise_of_announces ends announces held overflow, Overflow.sum_fits fits,
      Option.bind_some, if_neg (by omega), (sliced ends).1, Option.bind_some, (sliced ends).2,
      if_neg (by simp)]
    simp only [Utf8.decode?_encode]
  | bodyNotText header content rest ends announces fits noText =>
    have size := ends.length_eq
    rw [List.length_append] at size
    rw [frontStepwise_of_announces ends announces held overflow, Overflow.sum_fits fits,
      Option.bind_some, if_neg (by omega), (sliced ends).1, Option.bind_some, if_neg (by simp)]
    simp only [Utf8.decode?_eq_none_iff.mpr noText]

end TextEngine

-- A buffer in memory has a size of 64 bits. Whatever it holds, and whether sums stop or wrap, the
-- server and the text engine take from it what its bytes stand for, unless the length that is
-- announced is too large to be added to the size of the header.
theorem only_huge_lengths_stop_the_machine (buffer : Bytes)
    (held : buffer.length < Frame.lengthLimit) (overflow : Overflow) :
    ((Frame.takeStepwise overflow buffer = none ↔ Frame.Beyond buffer) ∧
      ∀ taken, Frame.takeStepwise overflow buffer = some taken ↔
        Frame.take buffer = taken ∧ ¬ Frame.Beyond buffer) ∧
    (∀ taken, Frame.take buffer = taken ↔ Frame.Parses buffer taken) ∧
    ((TextEngine.frontStepwise overflow buffer = none ↔ TextEngine.Beyond buffer) ∧
      ∀ found, TextEngine.frontStepwise overflow buffer = some found ↔
        TextEngine.front buffer = found ∧ ¬ TextEngine.Beyond buffer) ∧
    ∀ found, TextEngine.front buffer = found ↔ TextEngine.Parses buffer found := by
  refine ⟨⟨?_, fun taken => ?_⟩, fun taken => Frame.take_eq_iff, ⟨?_, fun found => ?_⟩,
    fun found => TextEngine.front_eq_iff⟩
  · rw [Frame.takeStepwise_eq held, ← Frame.take_eq_overflow_iff]
    split <;> simp_all
  · rw [Frame.takeStepwise_eq held, ← Frame.take_eq_overflow_iff]
    split <;> simp_all
  · rw [TextEngine.frontStepwise_eq held, ← TextEngine.front_eq_overflow_iff]
    split <;> simp_all
  · rw [TextEngine.frontStepwise_eq held, ← TextEngine.front_eq_overflow_iff]
    split <;> simp_all

theorem repeated_lengths_are_no_fault :
    let buffer := Utf8.encode "content-length: 7\r\nContent-Length: 2\r\n\r\n[]x"
    buffer.length < Frame.lengthLimit ∧
      Frame.takeStepwise .wraps buffer = some (.body "[]" [120]) ∧ ¬ Frame.Beyond buffer ∧
      Frame.Parses buffer (.body "[]" [120]) ∧
      TextEngine.frontStepwise .wraps buffer = some (.body "[]" [120]) ∧
      ¬ TextEngine.Beyond buffer ∧ TextEngine.Parses buffer (.body "[]" [120]) := by
  intro buffer
  have held : buffer.length < Frame.lengthLimit := by decide +kernel
  obtain ⟨⟨-, taken⟩, parses, ⟨-, found⟩, stands⟩ :=
    only_huge_lengths_stop_the_machine buffer held .wraps
  have served : Frame.takeStepwise .wraps buffer = some (.body "[]" [120]) := by decide +kernel
  have answered : TextEngine.frontStepwise .wraps buffer = some (.body "[]" [120]) := by
    decide +kernel
  obtain ⟨body, counted⟩ := (taken _).mp served
  obtain ⟨same, inside⟩ := (found _).mp answered
  exact ⟨held, served, counted, (parses _).mp body, answered, inside, (stands _).mp same⟩

theorem huge_length_stops_the_machine :
    let buffer := Utf8.encode "Content-Length: 18446744073709551615\r\n\r\n"
    buffer.length < Frame.lengthLimit ∧
      ∀ overflow, Frame.takeStepwise overflow buffer = none ∧
        TextEngine.frontStepwise overflow buffer = none := by
  intro buffer
  refine ⟨by decide +kernel, fun overflow => ?_⟩
  cases overflow <;> decide +kernel

end PythonAssist
