set_option autoImplicit false

namespace PythonAssist

def isWhiteSpace (c : Char) : Bool :=
  let n := c.toNat
  decide (9 ≤ n ∧ n ≤ 13) || n == 0x20 || n == 0x85 || n == 0xA0 || n == 0x1680 ||
    decide (0x2000 ≤ n ∧ n ≤ 0x200A) || n == 0x2028 || n == 0x2029 || n == 0x202F ||
    n == 0x205F || n == 0x3000

def trimFront (text : List Char) : List Char := text.dropWhile isWhiteSpace

def trimBack (text : List Char) : List Char := (text.reverse.dropWhile isWhiteSpace).reverse

def trimChars (text : List Char) : List Char := trimBack (trimFront text)

def trim (text : String) : String := String.ofList (trimChars text.toList)

def isBlankText (text : String) : Bool := text.toList.all isWhiteSpace

end PythonAssist
