set_option autoImplicit false

namespace PythonAssist

abbrev Bytes := List UInt8

namespace Utf8

def encode (text : String) : Bytes := text.toUTF8.toList

def decode? (bytes : Bytes) : Option String := String.fromUTF8? ⟨bytes.toArray⟩

structure Begun where
  due : Nat
  bits : Nat
  low : Nat
  high : Nat
  deriving DecidableEq, Repr

def replacement : Char := Char.ofNat 0xFFFD

def begin (b : Nat) : List Char × Option Begun :=
  if b < 0x80 then ([Char.ofNat b], none)
  else if b < 0xC2 then ([replacement], none)
  else if b < 0xE0 then ([], some ⟨1, b - 0xC0, 0x80, 0xBF⟩)
  else if b = 0xE0 then ([], some ⟨2, 0, 0xA0, 0xBF⟩)
  else if b = 0xED then ([], some ⟨2, 0xD, 0x80, 0x9F⟩)
  else if b < 0xF0 then ([], some ⟨2, b - 0xE0, 0x80, 0xBF⟩)
  else if b = 0xF0 then ([], some ⟨3, 0, 0x90, 0xBF⟩)
  else if b < 0xF4 then ([], some ⟨3, b - 0xF0, 0x80, 0xBF⟩)
  else if b = 0xF4 then ([], some ⟨3, 4, 0x80, 0x8F⟩)
  else ([replacement], none)

def next (state : Option Begun) (b : Nat) : List Char × Option Begun :=
  match state with
  | none => begin b
  | some begun =>
    if begun.low ≤ b ∧ b ≤ begun.high then
      let bits := begun.bits * 64 + (b - 0x80)
      if begun.due ≤ 1 then ([Char.ofNat bits], none)
      else ([], some ⟨begun.due - 1, bits, 0x80, 0xBF⟩)
    else
      let (chars, state) := begin b
      (replacement :: chars, state)

def lossyFrom : Option Begun → Bytes → List Char
  | none, [] => []
  | some _, [] => [replacement]
  | state, b :: rest =>
    let (chars, state) := next state b.toNat
    chars ++ lossyFrom state rest

-- Each longest piece that begins no character becomes one replacement character.
def decodeLossy (bytes : Bytes) : String :=
  match decode? bytes with
  | some text => text
  | none => String.ofList (lossyFrom none bytes)

-- Where reading fails: the bytes before it, and how many bytes are wrong. At the end of the text a
-- character may only be incomplete.
structure Fault where
  index : Nat
  length : Option Nat
  deriving DecidableEq, Repr

-- `start` is where the current character began, `index` the next byte.
def faultFrom : Option Begun → Nat → Nat → Bytes → Option Fault
  | none, _, _, [] => none
  | some _, start, _, [] => some ⟨start, none⟩
  | none, _, index, b :: rest =>
    match begin b.toNat with
    | (_, some begun) => faultFrom (some begun) index (index + 1) rest
    | (_, none) =>
      if b.toNat < 0x80 then faultFrom none index (index + 1) rest else some ⟨index, some 1⟩
  | some begun, start, index, b :: rest =>
    if begun.low ≤ b.toNat ∧ b.toNat ≤ begun.high then
      faultFrom (next (some begun) b.toNat).2 start (index + 1) rest
    else some ⟨start, some (index - start)⟩

def fault? (bytes : Bytes) : Option Fault := faultFrom none 0 0 bytes

def Fault.message (fault : Fault) : String :=
  match fault.length with
  | some length =>
    "invalid utf-8 sequence of " ++ toString length ++ " bytes from index " ++ toString fault.index
  | none => "incomplete utf-8 byte sequence from index " ++ toString fault.index

end Utf8

end PythonAssist
