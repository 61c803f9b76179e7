import PythonAssist.Text.Blank
import PythonAssist.Text.WordClass
import PythonAssist.Json.Reader
import PythonAssist.Configuration.NumberWord

set_option autoImplicit false

namespace PythonAssist

namespace Json5

def afterComment : List Char → Option (List Char)
  | '*' :: '/' :: rest => some rest
  | _ :: rest => afterComment rest
  | [] => none

def isLineEnd (c : Char) : Bool :=
  c == '\n' || c == '\r' || c.toNat == 0x2028 || c.toNat == 0x2029

def isGap (c : Char) : Bool := isWhiteSpace c || c.toNat == 0xFEFF

def skipGap : Nat → List Char → Option (List Char)
  | 0, _ => none
  | fuel + 1, text =>
    match text.dropWhile isGap with
    | '/' :: '/' :: rest => skipGap fuel (rest.dropWhile fun c => !isLineEnd c)
    | '/' :: '*' :: rest => (afterComment rest).bind (skipGap fuel)
    | rest => some rest

def skip (text : List Char) : Option (List Char) := skipGap (text.length + 1) text

def hexNumber? (digits : List Char) : Option Nat :=
  digits.foldl (fun n c => do return (← n) * 16 + (← Json.hex? c)) (some 0)

def codePoint (count : Nat) (text : List Char) : Option (List Char × List Char) := do
  let digits := text.take count
  if digits.length < count then none
  else
    let n ← hexNumber? digits
    if n.isValidChar then some ([Char.ofNat n], text.drop count) else none

def escape : List Char → Option (List Char × List Char)
  | [] => none
  | 'b' :: rest => some ([Char.ofNat 8], rest)
  | 't' :: rest => some (['\t'], rest)
  | 'n' :: rest => some (['\n'], rest)
  | 'v' :: rest => some ([Char.ofNat 11], rest)
  | 'f' :: rest => some ([Char.ofNat 12], rest)
  | 'r' :: rest => some (['\r'], rest)
  | '0' :: rest => some ([Char.ofNat 0], rest)
  | 'x' :: rest => codePoint 2 rest
  | 'u' :: rest => codePoint 4 rest
  | '\r' :: '\n' :: rest => some ([], rest)
  | c :: rest =>
    if isLineEnd c then some ([], rest) else if c.isDigit then none else some ([c], rest)

def stringBody (quote : Char) : Nat → List Char → Option (List Char × List Char)
  | 0, _ => none
  | _ + 1, [] => none
  | fuel + 1, c :: rest =>
    if c = quote then some ([], rest)
    else if c = '\\' then do
      let (found, rest) ← escape rest
      let (text, left) ← stringBody quote fuel rest
      some (found ++ text, left)
    else if c = '\n' ∨ c = '\r' then none
    else do
      let (text, left) ← stringBody quote fuel rest
      some (c :: text, left)

def isNameChar (c : Char) : Bool := isWordCharacter c || c == '$'

def isNumberChar (c : Char) : Bool := isNameChar c || c == '.' || c == '+' || c == '-'

def isReal (word : List Char) : Bool := word.any fun c => c == '.' || c == 'e' || c == 'E'

def isPadded : List Char → Bool
  | '0' :: c :: _ => c.isDigit
  | _ => false

def number? (word : List Char) : Option Json :=
  let (negative, digits) : Bool × List Char :=
    match word with
    | '-' :: rest => (true, rest)
    | '+' :: rest => (false, rest)
    | rest => (false, rest)
  match digits with
  | '0' :: x :: hex =>
    if x == 'x' || x == 'X' then do
      if hex.isEmpty then none
      else
        let n ← hexNumber? hex
        if n < 4294967296 then some (.integer (if negative then -(n : Int) else n)) else none
    else decimal negative digits
  | digits => decimal negative digits
where
  decimal (negative : Bool) (digits : List Char) : Option Json :=
    let signed := if negative then '-' :: digits else digits
    if digits = "Infinity".toList then some (.number (.real (.infinite negative)))
    else if digits = "NaN".toList then some (.number (.real .notANumber))
    else if isPadded digits then none
    else if !digits.head?.any (fun c => c.isDigit || c == '.') then none
    else if isReal digits then do
      let x ← realWord? signed
      if x.isInfinite then none else some (.number (.real x))
    else (integerWord? signed).map .integer

def word? (word : List Char) : Option Json :=
  if word = "null".toList then some .null
  else if word = "true".toList then some (.bool true)
  else if word = "false".toList then some (.bool false)
  else number? word

def key (text : List Char) : Option (String × List Char) :=
  match text with
  | [] => none
  | c :: rest =>
    if c = '"' ∨ c = '\'' then do
      let (name, left) ← stringBody c (rest.length + 1) rest
      some (String.ofList name, left)
    else
      let name := (c :: rest).takeWhile isNameChar
      if name.isEmpty || c.isDigit then none
      else some (String.ofList name, (c :: rest).drop name.length)

mutual
def value : Nat → List Char → Option (Json × List Char)
  | 0, _ => none
  | _ + 1, [] => none
  | fuel + 1, c :: rest =>
    if c = '"' ∨ c = '\'' then do
      let (text, left) ← stringBody c (rest.length + 1) rest
      some (.string (String.ofList text), left)
    else if c = '[' then do
      let (found, left) ← items fuel (← skip rest)
      some (.array found, left)
    else if c = '\x7b' then do
      let (found, left) ← fields fuel [] (← skip rest)
      some (.object found, left)
    else do
      let word := (c :: rest).takeWhile isNumberChar
      let found ← word? word
      some (found, (c :: rest).drop word.length)

def items : Nat → List Char → Option (List Json × List Char)
  | 0, _ => none
  | fuel + 1, text =>
    match text with
    | ']' :: left => some ([], left)
    | text => do
      let (first, left) ← value fuel text
      match ← skip left with
      | ',' :: left => do
        let (rest, left) ← items fuel (← skip left)
        some (first :: rest, left)
      | ']' :: left => some ([first], left)
      | _ => none

def fields : Nat → List (String × Json) → List Char → Option (List (String × Json) × List Char)
  | 0, _, _ => none
  | fuel + 1, known, text =>
    match text with
    | '\x7d' :: left => some (known, left)
    | text => do
      let (name, left) ← key text
      match ← skip left with
      | ':' :: left => do
        let (found, left) ← value fuel (← skip left)
        let known := Json.insert name found known
        match ← skip left with
        | ',' :: left => fields fuel known (← skip left)
        | '\x7d' :: left => some (known, left)
        | _ => none
      | _ => none
end

def read (text : String) : Option (List (String × Json)) := do
  let text ← skip text.toList
  let (found, left) ← value (2 * text.length + 2) text
  match found, ← skip left with
  | .object fields, [] => some fields
  | _, _ => none

end Json5

end PythonAssist
