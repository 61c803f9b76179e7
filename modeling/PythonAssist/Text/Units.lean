set_option autoImplicit false

namespace PythonAssist

namespace Units

def width (c : Char) : Nat := if c.toNat < 0x10000 then 1 else 2

def count : List Char → Nat
  | [] => 0
  | c :: rest => width c + count rest

def take : Nat → List Char → List Char
  | 0, _ => []
  | _ + 1, [] => []
  | column + 1, c :: rest => c :: take (column + 1 - width c) rest

def drop : Nat → List Char → List Char
  | 0, text => text
  | _ + 1, [] => []
  | column + 1, c :: rest => drop (column + 1 - width c) rest

theorem take_append_drop (column : Nat) (text : List Char) :
    take column text ++ drop column text = text := by
  induction text generalizing column with
  | nil => cases column <;> rfl
  | cons c rest ih => cases column <;> simp [take, drop, ih]

end Units

def unitCount (text : String) : Nat := Units.count text.toList

end PythonAssist
