set_option autoImplicit false

namespace PythonAssist

namespace Lines

def attach (c : Char) : List (List Char) → List (List Char)
  | [] => [[c]]
  | line :: rest => (c :: line) :: rest

-- Every line keeps its terminator; a text that ends in one has an empty last line.
def split : List Char → List (List Char)
  | [] => [[]]
  | '\n' :: rest => ['\n'] :: split rest
  | '\r' :: '\n' :: rest => ['\r', '\n'] :: split rest
  | '\r' :: rest => ['\r'] :: split rest
  | c :: rest => attach c (split rest)

def isTerminator (c : Char) : Bool := c == '\n' || c == '\r'

def content (line : List Char) : List Char :=
  (line.reverse.dropWhile isTerminator).reverse

theorem attach_flatten (c : Char) (lines : List (List Char)) :
    (attach c lines).flatten = c :: lines.flatten := by
  cases lines <;> simp [attach]

theorem split_flatten (text : List Char) : (split text).flatten = text := by
  fun_induction split text <;> simp_all [attach_flatten]

end Lines

def splitLines (text : String) : List String :=
  (Lines.split text.toList).map String.ofList

def lineContent (line : String) : String :=
  String.ofList (Lines.content line.toList)

end PythonAssist
