import PythonAssist.Text.Split
import PythonAssist.Json.Reader

set_option autoImplicit false

namespace PythonAssist

namespace Toml

inductive Origin where
  | implied
  | header
  | dotted
  deriving DecidableEq, Repr

inductive Node where
  | leaf (value : Json)
  | table (origin : Origin) (fields : List (String × Node))
  | tables (items : List (List (String × Node)))
  deriving Inhabited

abbrev Fields := List (String × Node)

def find? (key : String) : Fields → Option Node
  | [] => none
  | (k, node) :: rest => if k = key then some node else find? key rest

def set (key : String) (node : Node) : Fields → Fields
  | [] => [(key, node)]
  | (k, old) :: rest => if k = key then (k, node) :: rest else (k, old) :: set key node rest

def within (f : Fields → Option Fields) : List String → Fields → Option Fields
  | [], fields => f fields
  | key :: path, fields =>
    match find? key fields with
    | none => do
      let inner ← within f path []
      some (set key (.table .implied inner) fields)
    | some (.table origin inner) => do
      let inner ← within f path inner
      some (set key (.table origin inner) fields)
    | some (.tables items) =>
      match items.reverse with
      | [] => none
      | last :: before => do
        let last ← within f path last
        some (set key (.tables (last :: before).reverse) fields)
    | some (.leaf _) => none

def openTable (key : String) (fields : Fields) : Option Fields :=
  match find? key fields with
  | none => some (set key (.table .header []) fields)
  | some (.table .implied inner) => some (set key (.table .header inner) fields)
  | _ => none

def openListed (key : String) (fields : Fields) : Option Fields :=
  match find? key fields with
  | none => some (set key (.tables [[]]) fields)
  | some (.tables items) => some (set key (.tables (items ++ [[]])) fields)
  | _ => none

-- A dotted key only enters tables that dotted keys have made.
def assign (value : Json) : List String → Fields → Option Fields
  | [], _ => none
  | [key], fields =>
    match find? key fields with
    | none => some (set key (.leaf value) fields)
    | some _ => none
  | key :: path, fields =>
    match find? key fields with
    | none => do
      let inner ← assign value path []
      some (set key (.table .dotted inner) fields)
    | some (.table .dotted inner) => do
      let inner ← assign value path inner
      some (set key (.table .dotted inner) fields)
    | some _ => none

mutual
def Node.toJson : Node → Json
  | .leaf value => value
  | .table _ fields => .ofFields (fieldsToJson fields)
  | .tables items => .array (itemsToJson items)

def fieldsToJson : List (String × Node) → List (String × Json)
  | [] => []
  | (key, node) :: rest => (key, node.toJson) :: fieldsToJson rest

def itemsToJson : List (List (String × Node)) → List Json
  | [] => []
  | item :: rest => .ofFields (fieldsToJson item) :: itemsToJson rest
end

def isBlank (c : Char) : Bool := c == ' ' || c == '\t'

def skipBlank (text : List Char) : List Char := text.dropWhile isBlank

def isControl (c : Char) : Bool := decide (c.toNat < 32) && c != '\t' || c.toNat == 127

def skipComment (text : List Char) : Option (List Char) :=
  match text with
  | '#' :: rest =>
    let body := rest.takeWhile (· != '\n')
    let body := if body.getLast? = some '\r' then body.dropLast else body
    if body.any isControl then none else some (rest.drop body.length)
  | rest => some rest

def endLine (text : List Char) : Option (List Char) := do
  match ← skipComment (skipBlank text) with
  | [] => some []
  | '\n' :: rest => some rest
  | '\r' :: '\n' :: rest => some rest
  | _ => none

def skipLines : Nat → List Char → Option (List Char)
  | 0, _ => none
  | fuel + 1, text => do
    match ← skipComment (skipBlank text) with
    | '\n' :: rest => skipLines fuel rest
    | '\r' :: '\n' :: rest => skipLines fuel rest
    | rest => some rest

def hexNumber? (digits : List Char) : Option Nat :=
  digits.foldl (fun n c => do return (← n) * 16 + (← Json.hex? c)) (some 0)

def codePoint (count : Nat) (text : List Char) : Option (Char × List Char) := do
  let digits := text.take count
  if digits.length < count then none
  else
    let n ← hexNumber? digits
    if n.isValidChar then some (Char.ofNat n, text.drop count) else none

def escape : List Char → Option (Char × List Char)
  | 'b' :: rest => some (Char.ofNat 8, rest)
  | 't' :: rest => some ('\t', rest)
  | 'n' :: rest => some ('\n', rest)
  | 'f' :: rest => some (Char.ofNat 12, rest)
  | 'r' :: rest => some ('\r', rest)
  | '"' :: rest => some ('"', rest)
  | '\\' :: rest => some ('\\', rest)
  | 'u' :: rest => codePoint 4 rest
  | 'U' :: rest => codePoint 8 rest
  | _ => none

def basicString : Nat → List Char → Option (List Char × List Char)
  | 0, _ => none
  | _ + 1, [] => none
  | _ + 1, '"' :: rest => some ([], rest)
  | fuel + 1, '\\' :: rest => do
    let (c, rest) ← escape rest
    let (text, left) ← basicString fuel rest
    some (c :: text, left)
  | fuel + 1, c :: rest =>
    if isControl c then none
    else do
      let (text, left) ← basicString fuel rest
      some (c :: text, left)

def literalString (text : List Char) : Option (List Char × List Char) :=
  let body := text.takeWhile (· != '\'')
  match text.drop body.length with
  | '\'' :: rest => if body.any isControl then none else some (body, rest)
  | _ => none

def dropFirstLineEnd : List Char → List Char
  | '\n' :: rest => rest
  | '\r' :: '\n' :: rest => rest
  | rest => rest

-- Up to two quotes may stand directly before the closing three.
def closing (quote : Char) (text : List Char) : Option (List Char × List Char) :=
  let quotes := text.takeWhile (· == quote)
  if quotes.length < 3 then none
  else if 5 < quotes.length then none
  else some (List.replicate (quotes.length - 3) quote, text.drop quotes.length)

def joinsLine (text : List Char) : Option (List Char) :=
  match skipBlank text with
  | '\n' :: rest => some (rest.dropWhile fun c => isBlank c || c == '\n' || c == '\r')
  | '\r' :: '\n' :: rest => some (rest.dropWhile fun c => isBlank c || c == '\n' || c == '\r')
  | _ => none

def multilineString (quote : Char) (escapes : Bool) :
    Nat → List Char → Option (List Char × List Char)
  | 0, _ => none
  | _ + 1, [] => none
  | fuel + 1, c :: rest =>
    match closing quote (c :: rest) with
    | some found => some found
    | none =>
      if c = quote && (quote :: quote :: quote :: []).isPrefixOf (c :: rest) then none
      else if escapes && c == '\\' then
        match joinsLine rest with
        | some rest => multilineString quote escapes fuel rest
        | none => do
          let (c, rest) ← escape rest
          let (text, left) ← multilineString quote escapes fuel rest
          some (c :: text, left)
      else if isControl c && c != '\n' && !(c == '\r' && rest.head? == some '\n') then none
      else do
        let (text, left) ← multilineString quote escapes fuel rest
        some (c :: text, left)

def isBareKey (c : Char) : Bool := c.isAlphanum || c == '_' || c == '-'

def simpleKey (text : List Char) : Option (String × List Char) :=
  match text with
  | '"' :: rest => do
    let (key, left) ← basicString (rest.length + 1) rest
    some (String.ofList key, left)
  | '\'' :: rest => do
    let (key, left) ← literalString rest
    some (String.ofList key, left)
  | rest =>
    let key := rest.takeWhile isBareKey
    if key.isEmpty then none else some (String.ofList key, rest.drop key.length)

def dottedKey : Nat → List Char → Option (List String × List Char)
  | 0, _ => none
  | fuel + 1, text => do
    let (key, left) ← simpleKey (skipBlank text)
    match skipBlank left with
    | '.' :: rest => do
      let (path, left) ← dottedKey fuel rest
      some (key :: path, left)
    | left => some ([key], left)

def plainDigits (isDigit : Char → Bool) : List Char → Option (List Char)
  | [] => none
  | [c] => if isDigit c then some [c] else none
  | c :: '_' :: d :: rest =>
    if isDigit c && isDigit d then (plainDigits isDigit (d :: rest)).map (c :: ·) else none
  | c :: rest => if isDigit c then (plainDigits isDigit rest).map (c :: ·) else none

def inInt64 (n : Int) : Option Json :=
  if -9223372036854775808 ≤ n ∧ n ≤ 9223372036854775807 then some (.integer n) else none

def radixNumber (radix : Nat) (isDigit : Char → Bool) (digits : List Char) : Option Json := do
  let digits ← plainDigits isDigit digits
  let n ← digits.foldl (fun n c => do return (← n) * radix + (← Json.hex? c)) (some 0)
  inInt64 n

def splitSign : List Char → Bool × List Char
  | '-' :: rest => (true, rest)
  | '+' :: rest => (false, rest)
  | rest => (false, rest)

def wholeDigits (text : List Char) : Option (List Char) := do
  let digits ← plainDigits Char.isDigit text
  if digits.head? = some '0' ∧ 1 < digits.length then none else some digits

def isExponentMark (c : Char) : Bool := c == 'e' || c == 'E'

def floatWord (negative : Bool) (text : List Char) : Option Json := do
  let front := text.takeWhile fun c => !isExponentMark c
  let exponent ←
    match text.drop front.length with
    | [] => some (0 : Int)
    | _ :: rest => do
      let (negative, digits) := splitSign rest
      let digits ← plainDigits Char.isDigit digits
      let n : Int := natOfDigits digits
      some (if negative then -n else n)
  let whole := front.takeWhile (· != '.')
  let whole ← wholeDigits whole
  let fraction ←
    match front.drop (front.takeWhile (· != '.')).length with
    | [] => some []
    | _ :: rest => plainDigits Char.isDigit rest
  some (.number (.real (.ofDecimal negative (natOfDigits (whole ++ fraction))
    (exponent - fraction.length))))

def numberWord (word : List Char) : Option Json :=
  let (negative, digits) := splitSign word
  let signed := digits.length != word.length
  if digits = "inf".toList then some (.number (.real (.infinite negative)))
  else if digits = "nan".toList then some (.number (.real .notANumber))
  else
    match digits with
    | '0' :: 'x' :: rest => if signed then none else radixNumber 16 isHex rest
    | '0' :: 'o' :: rest =>
      if signed then none else radixNumber 8 (fun c => decide ('0' ≤ c ∧ c ≤ '7')) rest
    | '0' :: 'b' :: rest =>
      if signed then none else radixNumber 2 (fun c => c == '0' || c == '1') rest
    | digits =>
      if digits.any fun c => c == '.' || isExponentMark c then floatWord negative digits
      else do
        let digits ← wholeDigits digits
        let n : Int := natOfDigits digits
        inInt64 (if negative then -n else n)
where
  isHex (c : Char) : Bool := (Json.hex? c).isSome

def digitsAt (counts : List (Nat × Char)) (text : List Char) : Bool :=
  match counts with
  | [] => text.isEmpty
  | (count, mark) :: rest =>
    (text.take count).length == count && (text.take count).all Char.isDigit &&
      (if rest.isEmpty then (text.drop count).isEmpty
       else (text.drop count).head? == some mark && digitsAt rest (text.drop (count + 1)))

def isDate (text : List Char) : Bool := digitsAt [(4, '-'), (2, '-'), (2, ' ')] text

def isClock (text : List Char) : Bool :=
  let front := text.takeWhile (· != '.')
  let fraction := text.drop front.length
  digitsAt [(2, ':'), (2, ':'), (2, ' ')] front &&
    (fraction.isEmpty || (decide (1 < fraction.length) && (fraction.drop 1).all Char.isDigit))

def isOffset (text : List Char) : Bool :=
  match text with
  | ['Z'] => true
  | ['z'] => true
  | '+' :: rest => digitsAt [(2, ':'), (2, ' ')] rest
  | '-' :: rest => digitsAt [(2, ':'), (2, ' ')] rest
  | rest => rest.isEmpty

def isClockWithOffset (text : List Char) : Bool :=
  let clock := text.takeWhile fun c => c.isDigit || c == ':' || c == '.'
  isClock clock && isOffset (text.drop clock.length)

-- Dates and times stand for their text.
def dateWord (word : List Char) : Option Json :=
  let date := word.take 10
  if isDate date then
    match word.drop 10 with
    | [] => some (.string (String.ofList word))
    | mark :: rest =>
      if (mark == 'T' || mark == 't' || mark == ' ') && isClockWithOffset rest then
        some (.string (String.ofList (date ++ 'T' :: rest.map Char.toUpper)))
      else none
  else if isClock word then some (.string (String.ofList word))
  else none

def isWordChar (c : Char) : Bool :=
  c.isAlphanum || c == '_' || c == '-' || c == '+' || c == '.' || c == ':'

def takeWord (text : List Char) : List Char × List Char :=
  let word := text.takeWhile isWordChar
  let left := text.drop word.length
  match isDate word, left with
  | true, ' ' :: d :: rest =>
    if d.isDigit then
      let clock := (d :: rest).takeWhile isWordChar
      (word ++ ' ' :: clock, (d :: rest).drop clock.length)
    else (word, left)
  | _, _ => (word, left)

def plainValue (text : List Char) : Option (Json × List Char) := do
  let (word, left) := takeWord text
  if word = "true".toList then some (.bool true, left)
  else if word = "false".toList then some (.bool false, left)
  else
    match numberWord word with
    | some value => some (value, left)
    | none => (dateWord word).map fun value => (value, left)

def stringValue (text : Option (List Char × List Char)) : Option (Json × List Char) :=
  text.map fun (found, left) => (.string (String.ofList found), left)

mutual
def value : Nat → List Char → Option (Json × List Char)
  | 0, _ => none
  | fuel + 1, text =>
    match text with
    | '"' :: '"' :: '"' :: rest =>
      stringValue (multilineString '"' true (rest.length + 1) (dropFirstLineEnd rest))
    | '\'' :: '\'' :: '\'' :: rest =>
      stringValue (multilineString '\'' false (rest.length + 1) (dropFirstLineEnd rest))
    | '"' :: rest => stringValue (basicString (rest.length + 1) rest)
    | '\'' :: rest => stringValue (literalString rest)
    | '[' :: rest => do
      let (items, left) ← items fuel rest
      some (.array items, left)
    | '\x7b' :: rest =>
      match skipBlank rest with
      | '\x7d' :: left => some (.object [], left)
      | rest => do
        let (fields, left) ← pairs fuel [] rest
        some (.ofFields (fieldsToJson fields), left)
    | rest => plainValue rest

def items : Nat → List Char → Option (List Json × List Char)
  | 0, _ => none
  | fuel + 1, text => do
    match ← skipLines (text.length + 1) text with
    | ']' :: left => some ([], left)
    | rest => do
      let (first, left) ← value fuel rest
      match ← skipLines (left.length + 1) left with
      | ',' :: left => do
        let (others, left) ← items fuel left
        some (first :: others, left)
      | ']' :: left => some ([first], left)
      | _ => none

def pairs : Nat → Fields → List Char → Option (Fields × List Char)
  | 0, _, _ => none
  | fuel + 1, known, text => do
    let (path, left) ← dottedKey (text.length + 1) text
    match skipBlank left with
    | '=' :: left => do
      let (found, left) ← value fuel (skipBlank left)
      let known ← assign found path known
      match skipBlank left with
      | ',' :: left => pairs fuel known left
      | '\x7d' :: left => some (known, left)
      | _ => none
    | _ => none
end

structure Draft where
  path : List String
  fields : Fields

def splitLast (path : List String) : Option (List String × String) :=
  path.getLast?.map fun last => (path.dropLast, last)

def header (draft : Draft) (listed : Bool) (path : List String) : Option Draft := do
  let (front, last) ← splitLast path
  let fields ← within (if listed then openListed last else openTable last) front draft.fields
  some { path, fields }

def documentFrom : Nat → Draft → List Char → Option Draft
  | 0, _, _ => none
  | fuel + 1, draft, text =>
    match skipBlank text with
    | [] => some draft
    | '[' :: '[' :: rest => do
      let (path, left) ← dottedKey (rest.length + 1) rest
      match left with
      | ']' :: ']' :: left => do
        let draft ← header draft true path
        documentFrom fuel draft (← endLine left)
      | _ => none
    | '[' :: rest => do
      let (path, left) ← dottedKey (rest.length + 1) rest
      match left with
      | ']' :: left => do
        let draft ← header draft false path
        documentFrom fuel draft (← endLine left)
      | _ => none
    | c :: rest =>
      if c = '#' ∨ c = '\n' ∨ c = '\r' then do documentFrom fuel draft (← endLine (c :: rest))
      else do
        let (path, left) ← dottedKey (rest.length + 2) (c :: rest)
        match left with
        | '=' :: left => do
          let left := skipBlank left
          let (found, left) ← value (left.length + 1) left
          let fields ← within (assign found path) draft.path draft.fields
          documentFrom fuel { draft with fields } (← endLine left)
        | _ => none

def read (text : String) : Option (List (String × Json)) := do
  let draft ← documentFrom (text.length + 1) { path := [], fields := [] } text.toList
  match (Node.table .header draft.fields).toJson with
  | .object fields => some fields
  | _ => none

end Toml

end PythonAssist
