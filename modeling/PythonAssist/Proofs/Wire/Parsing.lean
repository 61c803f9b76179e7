import PythonAssist.Proofs.Wire.Stream

set_option autoImplicit false

namespace PythonAssist

namespace Utf8

theorem decode?_eq_some_iff {bytes : Bytes} {text : String} :
    decode? bytes = some text ↔ encode text = bytes := by
  constructor
  · intro decoded
    unfold decode? String.fromUTF8? at decoded
    split at decoded
    next valid =>
      cases decoded
      rw [encode_eq]
      rfl
    next => cases decoded
  · rintro rfl
    exact decode?_encode text

theorem decode?_eq_none_iff {bytes : Bytes} :
    decode? bytes = none ↔ ∀ text, encode text ≠ bytes := by
  simp [Option.eq_none_iff_forall_ne_some, decode?_eq_some_iff]

end Utf8

namespace Frame

structure HeaderEnds (buffer front back : Bytes) : Prop where
  joined : buffer = front ++ separator ++ back
  first : ∀ front' back', buffer = front' ++ separator ++ back' → front.length ≤ front'.length

theorem headerEnds_of_splitHeader {buffer front back : Bytes}
    (found : splitHeader buffer = some (front, back)) : HeaderEnds buffer front back := by
  fun_induction splitHeader buffer generalizing front with
  | case1 rest =>
    cases found
    exact ⟨rfl, fun _ _ _ => Nat.zero_le _⟩
  | case2 b rest different ih =>
    obtain ⟨⟨inner, last⟩, split, same⟩ := Option.map_eq_some_iff.mp found
    cases same
    obtain ⟨joined, first⟩ := ih split
    refine ⟨by rw [joined]; rfl, fun front' back' cut => ?_⟩
    cases front' with
    | nil =>
      -- A blank line at the very front would have been found.
      cases cut
      exact absurd rfl (different back' rfl)
    | cons c front' =>
      cases cut
      exact Nat.succ_le_succ (first front' back' rfl)
  | case3 => cases found

theorem splitHeader_of_joined (front back : Bytes) :
    ∃ front' back', splitHeader (front ++ separator ++ back) = some (front', back') := by
  induction front with
  | nil => exact ⟨[], back, rfl⟩
  | cons b front ih =>
    obtain ⟨front', back', found⟩ := ih
    rw [List.cons_append, List.cons_append, splitHeader.eq_def]
    split
    next rest _ => exact ⟨[], rest, rfl⟩
    next same =>
      cases same
      exact ⟨b :: front', back', by rw [found]; rfl⟩
    next same => cases same

theorem splitHeader_eq_some_iff {buffer front back : Bytes} :
    splitHeader buffer = some (front, back) ↔ HeaderEnds buffer front back := by
  refine ⟨headerEnds_of_splitHeader, fun ends => ?_⟩
  obtain ⟨front', back', found⟩ := splitHeader_of_joined front back
  rw [← ends.joined] at found
  have other := headerEnds_of_splitHeader found
  have size : front.length = front'.length :=
    Nat.le_antisymm (ends.first _ _ other.joined) (other.first _ _ ends.joined)
  have same := ends.joined.symm.trans other.joined
  rw [List.append_assoc, List.append_assoc] at same
  obtain ⟨rfl, behind⟩ := List.append_inj same size
  rw [found, List.append_cancel_left behind]

theorem splitHeader_eq_none_iff {buffer : Bytes} :
    splitHeader buffer = none ↔ ∀ front back, ¬ HeaderEnds buffer front back := by
  simp only [← splitHeader_eq_some_iff, Option.eq_none_iff_forall_ne_some, Prod.forall, ne_eq]

def lengthWord? (line : List Char) : Option (List Char) :=
  (splitFirst ':' line).bind fun (name, value) =>
    if isLengthName name then some (trimChars value) else none

def lengthWords (header : String) : List (List Char) :=
  (splitOn '\n' header.toList).filterMap lengthWord?

theorem lengthOf_cons (line : List Char) (rest : List (List Char)) (found : Option Nat) :
    lengthOf (line :: rest) found =
      match lengthWord? line with
      | none => lengthOf rest found
      | some word =>
        match unsigned? lengthLimit word with
        | some length => lengthOf rest (some length)
        | none => .error .badLength := by
  rw [lengthOf, lengthWord?]
  cases splitFirst ':' line with
  | none => rfl
  | some pair =>
    obtain ⟨name, value⟩ := pair
    simp only [Option.bind_some]
    cases isLengthName name <;> rfl

theorem lengthOf_ok {lines : List (List Char)}
    (numbers : ∀ word ∈ lines.filterMap lengthWord?, (unsigned? lengthLimit word).isSome)
    (found : Option Nat) :
    lengthOf lines found =
      .ok (((lines.filterMap lengthWord?).getLast?.bind (unsigned? lengthLimit)).or found) := by
  induction lines generalizing found with
  | nil => rfl
  | cons line rest ih =>
    rw [lengthOf_cons]
    cases said : lengthWord? line with
    | none =>
      rw [List.filterMap_cons_none said] at numbers ⊢
      exact ih numbers found
    | some word =>
      rw [List.filterMap_cons_some said] at numbers ⊢
      obtain ⟨number, others⟩ := List.forall_mem_cons.mp numbers
      obtain ⟨length, read⟩ := Option.isSome_iff_exists.mp number
      simp only [read, ih others]
      cases last : (rest.filterMap lengthWord?).getLast? with
      | none => simp [List.getLast?_eq_none_iff.mp last, read]
      | some word =>
        have isNumber := others word (List.mem_of_getLast? last)
        obtain ⟨length, read⟩ := Option.isSome_iff_exists.mp isNumber
        simp [List.getLast?_cons, last, read]

theorem lengthOf_bad {lines : List (List Char)} {word : List Char}
    (said : word ∈ lines.filterMap lengthWord?) (bad : unsigned? lengthLimit word = none)
    (found : Option Nat) : lengthOf lines found = .error .badLength := by
  induction lines generalizing found with
  | nil => cases said
  | cons line rest ih =>
    rw [lengthOf_cons]
    cases here : lengthWord? line with
    | none =>
      rw [List.filterMap_cons_none here] at said
      exact ih said found
    | some other =>
      rw [List.filterMap_cons_some here] at said
      cases read : unsigned? lengthLimit other with
      | none => simp only [read]
      | some length =>
        rcases List.mem_cons.mp said with rfl | later
        · rw [bad] at read
          cases read
        · simp only [read, ih later (some length)]

-- Every length that a header gives must be a number of 64 bits, and the last one counts.
def Announces (header : String) (length : Option Nat) : Prop :=
  (∀ word ∈ lengthWords header, (unsigned? lengthLimit word).isSome) ∧
    (lengthWords header).getLast?.bind (unsigned? lengthLimit) = length

inductive Arrival (size : Nat) : Nat → Bytes → Prop
  | beyond {length : Nat} {back : Bytes} : lengthLimit ≤ size + 4 + length →
      Arrival size length back
  | short {length : Nat} {back : Bytes} : size + 4 + length < lengthLimit →
      back.length < length → Arrival size length back
  | text (body : String) (rest : Bytes) : size + 4 + (Utf8.encode body).length < lengthLimit →
      Arrival size (Utf8.encode body).length (Utf8.encode body ++ rest)
  | noText (content rest : Bytes) : size + 4 + content.length < lengthLimit →
      (∀ text, Utf8.encode text ≠ content) → Arrival size content.length (content ++ rest)

theorem arrival (size length : Nat) (back : Bytes) : Arrival size length back := by
  by_cases huge : lengthLimit ≤ size + 4 + length
  next => exact .beyond huge
  next =>
    have fits := Nat.lt_of_not_le huge
    by_cases missing : back.length < length
    next => exact .short fits missing
    next =>
      obtain ⟨content, rest, rfl, rfl⟩ : ∃ content rest, back = content ++ rest ∧
          length = content.length :=
        ⟨back.take length, back.drop length, (List.take_append_drop length back).symm,
          (List.length_take_of_le (Nat.le_of_not_lt missing)).symm⟩
      cases decoded : Utf8.decode? content with
      | none => exact .noText content rest fits (Utf8.decode?_eq_none_iff.mp decoded)
      | some body =>
        obtain rfl := Utf8.decode?_eq_some_iff.mp decoded
        exact .text body rest fits

inductive Parses (buffer : Bytes) : Taken → Prop
  | noHeader : (∀ front back, ¬ HeaderEnds buffer front back) → Parses buffer .incomplete
  | headerNotText (front back : Bytes) : HeaderEnds buffer front back →
      (∀ text, Utf8.encode text ≠ front) → Parses buffer (.malformed .headerNotText buffer)
  | badLength (header : String) (back : Bytes) (word : List Char) :
      HeaderEnds buffer (Utf8.encode header) back → word ∈ lengthWords header →
      unsigned? lengthLimit word = none → Parses buffer (.malformed .badLength buffer)
  | noLength (header : String) (back : Bytes) : HeaderEnds buffer (Utf8.encode header) back →
      Announces header none → Parses buffer (.headerDropped back)
  | beyond (header : String) (back : Bytes) (length : Nat) :
      HeaderEnds buffer (Utf8.encode header) back → Announces header (some length) →
      lengthLimit ≤ (Utf8.encode header).length + 4 + length → Parses buffer .overflow
  | short (header : String) (back : Bytes) (length : Nat) :
      HeaderEnds buffer (Utf8.encode header) back → Announces header (some length) →
      (Utf8.encode header).length + 4 + length < lengthLimit → back.length < length →
      Parses buffer .incomplete
  | body (header body : String) (rest : Bytes) :
      HeaderEnds buffer (Utf8.encode header) (Utf8.encode body ++ rest) →
      Announces header (some (Utf8.encode body).length) →
      (Utf8.encode header).length + 4 + (Utf8.encode body).length < lengthLimit →
      Parses buffer (.body body rest)
  | bodyNotText (header : String) (content rest : Bytes) :
      HeaderEnds buffer (Utf8.encode header) (content ++ rest) →
      Announces header (some content.length) →
      (Utf8.encode header).length + 4 + content.length < lengthLimit →
      (∀ text, Utf8.encode text ≠ content) →
      Parses buffer (.malformed (.bodyNotText ((Utf8.fault? content).getD ⟨0, none⟩)) rest)

theorem take_of_announces {buffer back : Bytes} {header : String} {length : Option Nat}
    (ends : HeaderEnds buffer (Utf8.encode header) back) (announces : Announces header length) :
    take buffer =
      match length with
      | none => .headerDropped back
      | some length =>
        if lengthLimit ≤ (Utf8.encode header).length + 4 + length then .overflow
        else if back.length < length then .incomplete
        else
          match Utf8.decode? (back.take length) with
          | some text => .body text (back.drop length)
          | none =>
            .malformed (.bodyNotText ((Utf8.fault? (back.take length)).getD ⟨0, none⟩))
              (back.drop length) := by
  have read := lengthOf_ok announces.1 none
  rw [← lengthWords, announces.2, Option.or_none] at read
  simp only [take, splitHeader_eq_some_iff.mpr ends, Utf8.decode?_encode, read]
  cases length <;> rfl

theorem Parses.take_eq {buffer : Bytes} {taken : Taken} (parses : Parses buffer taken) :
    take buffer = taken := by
  cases parses with
  | noHeader none => rw [take, splitHeader_eq_none_iff.mpr none]
  | headerNotText front back ends noText =>
    simp only [take, splitHeader_eq_some_iff.mpr ends, Utf8.decode?_eq_none_iff.mpr noText]
  | badLength header back word ends said bad =>
    simp only [take, splitHeader_eq_some_iff.mpr ends, Utf8.decode?_encode,
      lengthOf_bad said bad none]
  | noLength header back ends announces => exact take_of_announces ends announces
  | beyond header back length ends announces huge =>
    rw [take_of_announces ends announces]
    exact if_pos huge
  | short header back length ends announces fits missing =>
    rw [take_of_announces ends announces]
    simp only [if_neg (Nat.not_le.mpr fits), if_pos missing]
  | body header body rest ends announces fits =>
    rw [take_of_announces ends announces]
    have come : ¬ (Utf8.encode body ++ rest).length < (Utf8.encode body).length := by simp
    simp only [if_neg (Nat.not_le.mpr fits), if_neg come, List.take_left, List.drop_left,
      Utf8.decode?_encode]
  | bodyNotText header content rest ends announces fits noText =>
    rw [take_of_announces ends announces]
    have come : ¬ (content ++ rest).length < content.length := by simp
    simp only [if_neg (Nat.not_le.mpr fits), if_neg come, List.take_left, List.drop_left,
      Utf8.decode?_eq_none_iff.mpr noText]

theorem parses_of_announces {buffer back : Bytes} {header : String} {length : Nat}
    (ends : HeaderEnds buffer (Utf8.encode header) back)
    (announces : Announces header (some length)) : ∃ taken, Parses buffer taken := by
  cases arrival (Utf8.encode header).length length back with
  | beyond huge => exact ⟨_, .beyond header back length ends announces huge⟩
  | short fits missing => exact ⟨_, .short header back length ends announces fits missing⟩
  | text body rest fits => exact ⟨_, .body header body rest ends announces fits⟩
  | noText content rest fits noText =>
    exact ⟨_, .bodyNotText header content rest ends announces fits noText⟩

theorem exists_parses (buffer : Bytes) : ∃ taken, Parses buffer taken := by
  cases found : splitHeader buffer with
  | none => exact ⟨_, .noHeader (splitHeader_eq_none_iff.mp found)⟩
  | some parts =>
    obtain ⟨front, back⟩ := parts
    have ends := splitHeader_eq_some_iff.mp found
    cases decoded : Utf8.decode? front with
    | none => exact ⟨_, .headerNotText front back ends (Utf8.decode?_eq_none_iff.mp decoded)⟩
    | some header =>
      obtain rfl := Utf8.decode?_eq_some_iff.mp decoded
      by_cases numbers : ∀ word ∈ lengthWords header, (unsigned? lengthLimit word).isSome
      next =>
        obtain ⟨length, announces⟩ : ∃ length, Announces header length := ⟨_, numbers, rfl⟩
        cases length with
        | none => exact ⟨_, .noLength header back ends announces⟩
        | some length => exact parses_of_announces ends announces
      next =>
        simp only [not_forall, Bool.not_eq_true, Option.isSome_eq_false_iff,
          Option.isNone_iff_eq_none] at numbers
        obtain ⟨word, said, bad⟩ := numbers
        exact ⟨_, .badLength header back word ends said bad⟩

theorem take_eq_iff {buffer : Bytes} {taken : Taken} :
    take buffer = taken ↔ Parses buffer taken := by
  refine ⟨fun same => ?_, Parses.take_eq⟩
  obtain ⟨other, parses⟩ := exists_parses buffer
  rwa [← same, parses.take_eq]

end Frame

namespace TextEngine

open PythonAssist.Frame

def lengthWord? (line : List Char) : Option (List Char) :=
  if "content-length:".toList.isPrefixOf (lower line) then
    some (((splitFirst ':' line).map fun (_, value) => trimChars value).getD [])
  else none

def lengthWords (header : String) : List (List Char) :=
  (splitOn '\n' header.toList).filterMap lengthWord?

-- Only the last length that is given counts, and it must be a number of 64 bits.
def Announces (header : String) (length : Nat) : Prop :=
  (lengthWords header).getLast?.bind (unsigned? lengthLimit) = some length

theorem lengthOf_cons (line : List Char) (rest : List (List Char)) (found : Option Nat) :
    lengthOf (line :: rest) found =
      match lengthWord? line with
      | none => lengthOf rest found
      | some word => lengthOf rest (unsigned? lengthLimit word) := by
  rw [lengthOf, lengthWord?]
  split
  next =>
    cases splitFirst ':' line with
    | none => rfl
    | some pair => rfl
  next => rfl

theorem lengthOf_eq (lines : List (List Char)) (found : Option Nat) :
    lengthOf lines found =
      match (lines.filterMap lengthWord?).getLast? with
      | none => found
      | some word => unsigned? lengthLimit word := by
  induction lines generalizing found with
  | nil => rfl
  | cons line rest ih =>
    rw [lengthOf_cons]
    cases said : lengthWord? line with
    | none =>
      rw [List.filterMap_cons_none said]
      exact ih found
    | some word =>
      rw [List.filterMap_cons_some said]
      simp only [ih, List.getLast?_cons]
      cases (rest.filterMap lengthWord?).getLast? <;> rfl

theorem lengthOf_header_eq (header : String) :
    lengthOf (splitOn '\n' header.toList) none =
      (lengthWords header).getLast?.bind (unsigned? lengthLimit) := by
  rw [lengthOf_eq, lengthWords]
  cases ((splitOn '\n' header.toList).filterMap lengthWord?).getLast? <;> rfl

inductive Parses (buffer : Bytes) : Front → Prop
  | noHeader : (∀ front back, ¬ HeaderEnds buffer front back) → Parses buffer .waiting
  | headerNotText (front back : Bytes) : HeaderEnds buffer front back →
      (∀ text, Utf8.encode text ≠ front) → Parses buffer .waiting
  | noLength (header : String) (back : Bytes) : HeaderEnds buffer (Utf8.encode header) back →
      (∀ length, ¬ Announces header length) → Parses buffer .waiting
  | beyond (header : String) (back : Bytes) (length : Nat) :
      HeaderEnds buffer (Utf8.encode header) back → Announces header length →
      lengthLimit ≤ (Utf8.encode header).length + 4 + length → Parses buffer .overflow
  | short (header : String) (back : Bytes) (length : Nat) :
      HeaderEnds buffer (Utf8.encode header) back → Announces header length →
      (Utf8.encode header).length + 4 + length < lengthLimit → back.length < length →
      Parses buffer .waiting
  | body (header body : String) (rest : Bytes) :
      HeaderEnds buffer (Utf8.encode header) (Utf8.encode body ++ rest) →
      Announces header (Utf8.encode body).length →
      (Utf8.encode header).length + 4 + (Utf8.encode body).length < lengthLimit →
      Parses buffer (.body body rest)
  | bodyNotText (header : String) (content rest : Bytes) :
      HeaderEnds buffer (Utf8.encode header) (content ++ rest) →
      Announces header content.length →
      (Utf8.encode header).length + 4 + content.length < lengthLimit →
      (∀ text, Utf8.encode text ≠ content) → Parses buffer .waiting

theorem front_of_header {buffer back : Bytes} {header : String}
    (ends : HeaderEnds buffer (Utf8.encode header) back) :
    front buffer =
      match (lengthWords header).getLast?.bind (unsigned? lengthLimit) with
      | none => .waiting
      | some length => cut (Utf8.encode header).length length back := by
  cases announced : (lengthWords header).getLast?.bind (unsigned? lengthLimit) <;>
    simp only [front, splitHeader_eq_some_iff.mpr ends, Utf8.decode?_encode, Option.bind_some,
      lengthOf_header_eq, announced]

theorem front_of_announces {buffer back : Bytes} {header : String} {length : Nat}
    (ends : HeaderEnds buffer (Utf8.encode header) back) (announces : Announces header length) :
    front buffer = cut (Utf8.encode header).length length back := by
  rw [front_of_header ends, announces]

theorem Parses.front_eq {buffer : Bytes} {found : Front} (parses : Parses buffer found) :
    front buffer = found := by
  cases parses with
  | noHeader none => rw [front, splitHeader_eq_none_iff.mpr none]
  | headerNotText header back ends noText =>
    simp only [front, splitHeader_eq_some_iff.mpr ends, Utf8.decode?_eq_none_iff.mpr noText,
      Option.bind_none]
  | noLength header back ends none =>
    have nothing := Option.eq_none_iff_forall_ne_some.mpr none
    rw [front_of_header ends, nothing]
  | beyond header back length ends announces huge =>
    rw [front_of_announces ends announces, cut, if_pos huge]
  | short header back length ends announces fits missing =>
    rw [front_of_announces ends announces, cut, if_neg (Nat.not_le.mpr fits), if_pos missing]
  | body header body rest ends announces fits =>
    have come : ¬ (Utf8.encode body ++ rest).length < (Utf8.encode body).length := by simp
    rw [front_of_announces ends announces, cut, if_neg (Nat.not_le.mpr fits), if_neg come,
      List.take_left, List.drop_left, Utf8.decode?_encode]
  | bodyNotText header content rest ends announces fits noText =>
    have come : ¬ (content ++ rest).length < content.length := by simp
    rw [front_of_announces ends announces, cut, if_neg (Nat.not_le.mpr fits), if_neg come,
      List.take_left, Utf8.decode?_eq_none_iff.mpr noText]

theorem parses_of_announces {buffer back : Bytes} {header : String} {length : Nat}
    (ends : HeaderEnds buffer (Utf8.encode header) back)
    (announces : Announces header length) : ∃ found, Parses buffer found := by
  cases arrival (Utf8.encode header).length length back with
  | beyond huge => exact ⟨_, .beyond header back length ends announces huge⟩
  | short fits missing => exact ⟨_, .short header back length ends announces fits missing⟩
  | text body rest fits => exact ⟨_, .body header body rest ends announces fits⟩
  | noText content rest fits noText =>
    exact ⟨_, .bodyNotText header content rest ends announces fits noText⟩

theorem exists_parses (buffer : Bytes) : ∃ found, Parses buffer found := by
  cases found : splitHeader buffer with
  | none => exact ⟨_, .noHeader (splitHeader_eq_none_iff.mp found)⟩
  | some parts =>
    obtain ⟨front, back⟩ := parts
    have ends := splitHeader_eq_some_iff.mp found
    cases decoded : Utf8.decode? front with
    | none => exact ⟨_, .headerNotText front back ends (Utf8.decode?_eq_none_iff.mp decoded)⟩
    | some header =>
      obtain rfl := Utf8.decode?_eq_some_iff.mp decoded
      cases said : (lengthWords header).getLast?.bind (unsigned? lengthLimit) with
      | none => exact ⟨_, .noLength header back ends (by simp [Announces, said])⟩
      | some length => exact parses_of_announces ends said

theorem front_eq_iff {buffer : Bytes} {found : Front} :
    front buffer = found ↔ Parses buffer found := by
  refine ⟨fun same => ?_, Parses.front_eq⟩
  obtain ⟨other, parses⟩ := exists_parses buffer
  rwa [← same, parses.front_eq]

end TextEngine

end PythonAssist
