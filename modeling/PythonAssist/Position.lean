import PythonAssist.Json.Decode

set_option autoImplicit false

namespace PythonAssist

-- A place between characters: a line from 0 and a column in UTF-16 units.
structure Position where
  line : UInt32
  character : UInt32
  deriving DecidableEq, Repr

structure Range where
  start : Position
  stop : Position
  deriving DecidableEq, Repr

structure TextEdit where
  range : Range
  newText : String
  deriving DecidableEq, Repr

def positionLimit : Nat := 4294967295

def clampToPosition (n : Nat) : UInt32 := UInt32.ofNat (min n positionLimit)

def Position.ofNat (line character : Nat) : Position :=
  { line := clampToPosition line, character := clampToPosition character }

def Range.onLine (line first last : Nat) : Range :=
  { start := .ofNat line first, stop := .ofNat line last }

def Position.toJson (p : Position) : Json :=
  .object [("character", .nat p.character.toNat), ("line", .nat p.line.toNat)]

def Position.reader : Reader Position :=
  Position.mk <$> .required "line" Json.decodeUInt32 <*> .required "character" Json.decodeUInt32

def Position.decode : Json → Decoded Position := Position.reader.decode "struct Position"

def Range.toJson (r : Range) : Json :=
  .object [("end", r.stop.toJson), ("start", r.start.toJson)]

def Range.reader : Reader Range :=
  Range.mk <$> .required "start" Position.decode <*> .required "end" Position.decode

def Range.decode : Json → Decoded Range := Range.reader.decode "struct Range"

def TextEdit.toJson (edit : TextEdit) : Json :=
  .object [("newText", .string edit.newText), ("range", edit.range.toJson)]

end PythonAssist
