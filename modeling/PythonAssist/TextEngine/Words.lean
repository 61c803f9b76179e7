import PythonAssist.Text.Blank
import PythonAssist.Text.Split
import PythonAssist.Engine.Payload

set_option autoImplicit false

namespace PythonAssist

namespace TextEngine

-- Columns of the text engine count UTF-8 bytes.
def byteWidth : List Char → Nat
  | [] => 0
  | c :: rest => c.utf8Size + byteWidth rest

def isWordChar (c : Char) : Bool := c.isAlphanum || c == '_'

def isWordAt (c : Option Char) : Bool := c.any isWordChar

def linesWithEnds : List Char → List (List Char)
  | [] => []
  | '\n' :: rest => ['\n'] :: linesWithEnds rest
  | c :: rest =>
    match rest with
    | [] => [[c]]
    | next :: more =>
      match linesWithEnds (next :: more) with
      | [] => [[c]]
      | first :: others => (c :: first) :: others

def dropEnd (line : List Char) : List Char :=
  match line.reverse with
  | '\n' :: '\r' :: rest => rest.reverse
  | '\n' :: rest => rest.reverse
  | _ => line

def codeLines (code : List Char) : List (List Char) := (linesWithEnds code).map dropEnd

def wordAt (text : List Char) (column : Nat) : Option (List Char) :=
  match bytePrefix? column text with
  | none => none
  | some front =>
    let rest := text.drop front.length
    if isWordAt rest.head? then
      some ((front.reverse.takeWhile isWordChar).reverse ++ rest.takeWhile isWordChar)
    else none

def before (text : List Char) (column : Nat) : List Char := (bytePrefix? column text).getD text

inductive LookBack where
  | word (word : List Char)
  | broken
  deriving DecidableEq, Repr

def lastWord (text : List Char) : LookBack :=
  let word := (text.reverse.takeWhile isWordChar).reverse
  match (text.reverse.dropWhile isWordChar).head? with
  | some c => if c.utf8Size = 1 then .word word else .broken
  | none => .word word

-- Columns where a word stands alone. Matches do not overlap; `skip` counts the characters of
-- the last match that are still to be passed.
def occurrencesFrom (word : List Char) : Nat → Option Char → Nat → List Char → List Nat
  | _, last, column, [] => if word.isEmpty && !isWordAt last then [column] else []
  | skip + 1, _, column, c :: rest =>
    occurrencesFrom word skip (some c) (column + c.utf8Size) rest
  | 0, last, column, c :: rest =>
    match stripFront word (c :: rest) with
    | none => occurrencesFrom word 0 (some c) (column + c.utf8Size) rest
    | some after =>
      let here := if !isWordAt last && !isWordAt after.head? then [column] else []
      here ++ occurrencesFrom word (word.length - 1) (some c) (column + c.utf8Size) rest

def occurrences (text word : List Char) : List Nat := occurrencesFrom word 0 none 0 text

-- The text with new text in place of each occurrence. `drop` and `keep` count the characters of
-- the last match that are still to be passed.
def replaceFrom (word value : List Char) : Nat → Nat → Option Char → List Char → List Char
  | _, _, _, [] => []
  | drop + 1, keep, _, c :: rest => replaceFrom word value drop keep (some c) rest
  | 0, keep + 1, _, c :: rest => c :: replaceFrom word value 0 keep (some c) rest
  | 0, 0, last, c :: rest =>
    match stripFront word (c :: rest) with
    | none => c :: replaceFrom word value 0 0 (some c) rest
    | some after =>
      if !isWordAt last && !isWordAt after.head? then
        value ++ replaceFrom word value (word.length - 1) 0 (some c) rest
      else c :: replaceFrom word value 0 (word.length - 1) (some c) rest

def replaceWord (word value text : List Char) : List Char := replaceFrom word value 0 0 none text

def runs : List Char → List (List Char)
  | [] => [[]]
  | c :: rest =>
    if isWordChar c then
      match runs rest with
      | [] => [[c]]
      | first :: others => (c :: first) :: others
    else [] :: runs rest

def words (code : List Char) : List (List Char) :=
  (runs code).filter fun run =>
    match run with
    | [] => false
    | c :: _ => !c.isDigit

def findColumn (pattern : List Char) (column : Nat) : List Char → Option Nat
  | [] => none
  | c :: rest =>
    if pattern.isPrefixOf (c :: rest) then some column
    else findColumn pattern (column + c.utf8Size) rest

structure Definition where
  keyword : List Char
  name : List Char
  deriving DecidableEq, Repr

def definedAfter (keyword rest : List Char) : Option Definition :=
  let name := rest.takeWhile isWordChar
  if name.isEmpty then none else some { keyword, name }

def definition (line : List Char) : Option Definition :=
  match stripFront "def ".toList line with
  | some rest => definedAfter "def ".toList rest
  | none =>
    match stripFront "class ".toList line with
    | some rest => definedAfter "class ".toList rest
    | none =>
      let name := line.takeWhile isWordChar
      if !name.isEmpty && " = ".toList.isPrefixOf (line.drop name.length) then
        some { keyword := [], name }
      else none

end TextEngine

end PythonAssist
