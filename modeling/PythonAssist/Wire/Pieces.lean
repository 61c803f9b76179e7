import PythonAssist.Text.Utf8

set_option autoImplicit false

namespace PythonAssist

def readSize : Nat := 4096

def piecesOf (size : Nat) (bytes : Bytes) : List Bytes :=
  if _h : size = 0 ∨ bytes = [] then []
  else bytes.take size :: piecesOf size (bytes.drop size)
termination_by bytes.length
decreasing_by
  have positive : 0 < bytes.length := List.length_pos_iff.2 fun e => _h (.inr e)
  have : size ≠ 0 := fun e => _h (.inl e)
  simp only [List.length_drop]
  omega

def reads (bytes : Bytes) : List Bytes := piecesOf readSize bytes

end PythonAssist
