import PythonAssist.Text.Blank
import PythonAssist.Text.Split
import PythonAssist.Text.Utf8

set_option autoImplicit false

namespace PythonAssist

inductive FrameError where
  | headerNotText
  | badLength
  | bodyNotText (fault : Utf8.Fault)
  deriving DecidableEq, Repr

def FrameError.message : FrameError → String
  | .headerNotText => "Failed to parse headers as UTF-8"
  | .badLength => "Invalid Content-Length"
  | .bodyNotText fault => fault.message

inductive Taken where
  | incomplete
  | headerDropped (rest : Bytes)
  | malformed (error : FrameError) (rest : Bytes)
  | overflow
  | body (text : String) (rest : Bytes)
  deriving DecidableEq, Repr

namespace Frame

def separator : Bytes := [13, 10, 13, 10]

def header (length : Nat) : String := "Content-Length: " ++ toString length

def encode (body : String) : Bytes :=
  Utf8.encode (header body.utf8ByteSize) ++ separator ++ Utf8.encode body

def splitHeader : Bytes → Option (Bytes × Bytes)
  | 13 :: 10 :: 13 :: 10 :: rest => some ([], rest)
  | b :: rest => (splitHeader rest).map fun (front, back) => (b :: front, back)
  | [] => none

def lengthLimit : Nat := 18446744073709551616

def isLengthName (name : List Char) : Bool :=
  (trimChars name).map Char.toLower == "content-length".toList

def lengthOf : List (List Char) → Option Nat → Except FrameError (Option Nat)
  | [], found => .ok found
  | line :: rest, found =>
    match splitFirst ':' line with
    | some (name, value) =>
      if isLengthName name then
        match unsigned? lengthLimit (trimChars value) with
        | some length => lengthOf rest (some length)
        | none => .error .badLength
      else lengthOf rest found
    | none => lengthOf rest found

def take (buffer : Bytes) : Taken :=
  match splitHeader buffer with
  | none => .incomplete
  | some (front, back) =>
    match Utf8.decode? front with
    | none => .malformed .headerNotText buffer
    | some header =>
      match lengthOf (splitOn '\n' header.toList) none with
      | .error e => .malformed e buffer
      | .ok none => .headerDropped back
      | .ok (some length) =>
        if lengthLimit ≤ front.length + 4 + length then .overflow
        else if back.length < length then .incomplete
        else
          let content := back.take length
          match Utf8.decode? content with
          | some text => .body text (back.drop length)
          | none =>
            .malformed (.bodyNotText ((Utf8.fault? content).getD ⟨0, none⟩)) (back.drop length)

theorem splitHeader_length {buffer front back : Bytes}
    (h : splitHeader buffer = some (front, back)) :
    buffer.length = front.length + 4 + back.length := by
  fun_induction splitHeader buffer generalizing front with
  | case1 rest =>
    simp only [Option.some.injEq, Prod.mk.injEq] at h
    simp [← h.1, h.2]; omega
  | case2 b rest _ ih =>
    obtain ⟨⟨inner, last⟩, found, same⟩ := Option.map_eq_some_iff.1 h
    simp only [Prod.mk.injEq] at same
    have := ih (found.trans (by rw [same.2]))
    simp [← same.1, this]; omega
  | case3 => simp at h

theorem take_body_length {buffer rest : Bytes} {text : String} (h : take buffer = .body text rest) :
    rest.length < buffer.length := by
  unfold take at h
  split at h
  next => simp at h
  next front back split =>
    have size := splitHeader_length split
    dsimp only at h
    repeat' split at h
    all_goals try simp only [Taken.body.injEq, reduceCtorEq] at h
    obtain ⟨_, rfl⟩ := h
    simp only [List.length_drop]
    omega

-- Hands over one complete body after the other until the buffer holds none or the receiver
-- stops. A header without a length is dropped and ends the round, broken input empties the
-- buffer.
def feed {S : Type} (step : String → S → S) (stopped : S → Bool) (buffer : Bytes) (state : S) :
    Bytes × S :=
  match _found : take buffer with
  | .body text rest =>
    let state := step text state
    if stopped state then (rest, state) else feed step stopped rest state
  | .headerDropped rest => (rest, state)
  | .incomplete => (buffer, state)
  | .malformed _ _ => ([], state)
  | .overflow => ([], state)
termination_by buffer.length
decreasing_by exact take_body_length _found

end Frame

end PythonAssist
