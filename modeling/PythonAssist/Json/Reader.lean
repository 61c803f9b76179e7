import PythonAssist.Json.Value

set_option autoImplicit false

namespace PythonAssist.Json

def isBlank (c : Char) : Bool := c == ' ' || c == '\n' || c == '\t' || c == '\r'

def skipBlank (text : List Char) : List Char := text.dropWhile isBlank

def digit? (c : Char) : Option Nat := if c.isDigit then some (c.toNat - 48) else none

def hex? (c : Char) : Option Nat :=
  if c.isDigit then some (c.toNat - 48)
  else if 'a' ≤ c ∧ c ≤ 'f' then some (c.toNat - 87)
  else if 'A' ≤ c ∧ c ≤ 'F' then some (c.toNat - 55)
  else none

def hex4? (a b c d : Char) : Option Nat := do
  return ((← hex? a) * 16 + (← hex? b)) * 256 + (← hex? c) * 16 + (← hex? d)

def isLeading (n : Nat) : Bool := decide (0xD800 ≤ n ∧ n < 0xDC00)

def isTrailing (n : Nat) : Bool := decide (0xDC00 ≤ n ∧ n < 0xE000)

def escape? (c : Char) : Option Char :=
  match c with
  | '"' => some '"'
  | '\\' => some '\\'
  | '/' => some '/'
  | 'b' => some (Char.ofNat 8)
  | 'f' => some (Char.ofNat 12)
  | 'n' => some '\n'
  | 'r' => some '\r'
  | 't' => some '\t'
  | _ => none

def stringBody : List Char → Option (List Char × List Char)
  | [] => none
  | '"' :: rest => some ([], rest)
  | '\\' :: 'u' :: a :: b :: c :: d :: rest =>
    match hex4? a b c d with
    | none => none
    | some unit =>
      if isTrailing unit then none
      else if isLeading unit then
        match rest with
        | '\\' :: 'u' :: a' :: b' :: c' :: d' :: rest' =>
          match hex4? a' b' c' d' with
          | none => none
          | some low =>
            if isTrailing low then do
              let (text, left) ← stringBody rest'
              some (Char.ofNat (0x10000 + (unit - 0xD800) * 0x400 + (low - 0xDC00)) :: text, left)
            else none
        | _ => none
      else do
        let (text, left) ← stringBody rest
        some (Char.ofNat unit :: text, left)
  | '\\' :: c :: rest =>
    match escape? c with
    | none => none
    | some e => do
      let (text, left) ← stringBody rest
      some (e :: text, left)
  | c :: rest =>
    if c.toNat < 32 then none
    else do
      let (text, left) ← stringBody rest
      some (c :: text, left)

def wordLimit : Nat := 18446744073709551616

structure Digits where
  significand : Nat
  taken : Nat
  left : List Nat

def takeDigits : Nat → Nat → List Nat → Digits
  | significand, taken, [] => { significand, taken, left := [] }
  | significand, taken, d :: rest =>
    if significand * 10 + d < wordLimit then takeDigits (significand * 10 + d) (taken + 1) rest
    else { significand, taken, left := d :: rest }

def powerOfTen (n : Nat) : Float := Float.ofScientific 1 false n

-- The significand is rounded first and then scaled, one power of ten at a time.
def scale (significand : Nat) (exponent : Int) : Option Float :=
  go 40 (Float.ofNat significand) exponent
where
  go : Nat → Float → Int → Option Float
    | 0, x, _ => some x
    | fuel + 1, x, e =>
      if 0 ≤ e then
        if e ≤ 308 then
          let scaled := x * powerOfTen e.toNat
          if scaled.isInf then none else some scaled
        else if x == 0.0 then some x else none
      else if -308 ≤ e then some (x / powerOfTen (-e).toNat)
      else if x == 0.0 then some x
      else go fuel (x / powerOfTen 308) (e + 308)

def exponentLimit : Nat := 2147483647

def scaledNumber (negative : Bool) (significand : Nat) (start : Int) (exponent : Int) :
    Option Number :=
  let signed (x : Float) : Number := .real (.ofFloat (if negative then -x else x))
  if exponentLimit < exponent.natAbs then
    if significand ≠ 0 ∧ 0 < exponent then none else some (signed 0.0)
  else (scale significand (start + exponent)).map signed

def natOfDigits (digits : List Nat) : Nat := digits.foldl (fun n d => n * 10 + d) 0

def digitsOf (text : List Char) : List Nat × List Char :=
  let front := text.takeWhile Char.isDigit
  (front.map (fun c => c.toNat - 48), text.drop front.length)

def exponentPart : List Char → Option (Int × List Char)
  | c :: rest =>
    if c == 'e' || c == 'E' then
      let (negative, rest) : Bool × List Char :=
        match rest with
        | '+' :: rest => (false, rest)
        | '-' :: rest => (true, rest)
        | rest => (false, rest)
      let (digits, left) := digitsOf rest
      if digits.isEmpty then none
      else
        let n : Int := natOfDigits digits
        some (if negative then -n else n, left)
    else some (0, c :: rest)
  | [] => some (0, [])

def integerNumber (negative : Bool) (significand : Nat) : Number :=
  if !negative then .integer significand
  else if significand = 0 ∨ 9223372036854775808 < significand then
    .real (.ofFloat (-(Float.ofNat significand)))
  else .integer (-(significand : Int))

def numberBody (negative : Bool) (text : List Char) : Option (Number × List Char) :=
  let (whole, rest) := digitsOf text
  if whole.isEmpty || (whole.head? == some 0 && whole.length != 1) then none
  else
    let front := takeDigits 0 0 whole
    match rest with
    | '.' :: rest =>
      let (fraction, rest) := digitsOf rest
      if fraction.isEmpty then none
      else do
        let more := takeDigits front.significand 0 fraction
        let (exponent, rest) ← exponentPart rest
        let start : Int := (front.left.length : Int) - more.taken
        let value ← scaledNumber negative more.significand start exponent
        some (value, rest)
    | c :: _ =>
      if c == 'e' || c == 'E' then do
        let (exponent, rest) ← exponentPart rest
        let value ← scaledNumber negative front.significand front.left.length exponent
        some (value, rest)
      else plain front rest
    | [] => plain front []
where
  plain (front : Digits) (rest : List Char) : Option (Number × List Char) :=
    if front.left.isEmpty then some (integerNumber negative front.significand, rest)
    else do
      let value ← scaledNumber negative front.significand front.left.length 0
      some (value, rest)

def literal (word : List Char) (value : Json) (text : List Char) : Option (Json × List Char) :=
  if word.isPrefixOf text then some (value, text.drop word.length) else none

-- `depth` is how many brackets may still be opened.
mutual
def value : Nat → Nat → List Char → Option (Json × List Char)
  | 0, _, _ => none
  | fuel + 1, depth, text =>
    match skipBlank text with
    | [] => none
    | c :: rest =>
      if c = 'n' then literal "null".toList .null (c :: rest)
      else if c = 't' then literal "true".toList (.bool true) (c :: rest)
      else if c = 'f' then literal "false".toList (.bool false) (c :: rest)
      else if c = '"' then do
        let (text, left) ← stringBody rest
        some (.string (String.ofList text), left)
      else if c = '-' then do
        let (amount, left) ← numberBody true rest
        some (.number amount, left)
      else if c.isDigit then do
        let (amount, left) ← numberBody false (c :: rest)
        some (.number amount, left)
      else if c = '[' then
        match depth with
        | 0 | 1 => none
        | depth + 1 =>
          match skipBlank rest with
          | ']' :: left => some (.array [], left)
          | rest => do
            let (items, left) ← items fuel depth rest
            some (.array items, left)
      else if c = '\x7b' then
        match depth with
        | 0 | 1 => none
        | depth + 1 =>
          match skipBlank rest with
          | '\x7d' :: left => some (.object [], left)
          | rest => do
            let (fields, left) ← fields fuel depth rest
            some (.object fields, left)
      else none

def items : Nat → Nat → List Char → Option (List Json × List Char)
  | 0, _, _ => none
  | fuel + 1, depth, text => do
    let (first, left) ← value fuel depth text
    match skipBlank left with
    | ',' :: left => do
      let (rest, left) ← items fuel depth left
      some (first :: rest, left)
    | ']' :: left => some ([first], left)
    | _ => none

def fields : Nat → Nat → List Char → Option (List (String × Json) × List Char)
  | 0, _, _ => none
  | fuel + 1, depth, text =>
    match skipBlank text with
    | '"' :: rest => do
      let (key, left) ← stringBody rest
      match skipBlank left with
      | ':' :: left => do
        let (first, left) ← value fuel depth left
        let field := (String.ofList key, first)
        match skipBlank left with
        | ',' :: left => do
          let (rest, left) ← fields fuel depth left
          some (field :: rest, left)
        | '\x7d' :: left => some ([field], left)
        | _ => none
      | _ => none
    | _ => none
end

def depthLimit : Nat := 128

def readAsWritten (text : String) : Option Json :=
  let text := text.toList
  match value (text.length + 1) depthLimit text with
  | some (found, left) => if (skipBlank left).isEmpty then some found else none
  | none => none

mutual
def sorted : Json → Json
  | .array items => .array (sortedItems items)
  | .object fields => .object (sortedFields [] fields)
  | value => value

def sortedItems : List Json → List Json
  | [] => []
  | item :: rest => sorted item :: sortedItems rest

def sortedFields (known : List (String × Json)) : List (String × Json) → List (String × Json)
  | [] => known
  | (key, value) :: rest => sortedFields (insert key (sorted value) known) rest
end

def read (text : String) : Option Json := (readAsWritten text).map sorted

end PythonAssist.Json
