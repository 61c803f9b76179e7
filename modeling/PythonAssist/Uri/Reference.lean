import PythonAssist.Text.Split

set_option autoImplicit false

namespace PythonAssist

inductive UriError where
  | badOctet (index : Nat)
  | unexpected (index : Nat)
  | badLiteral (index : Nat)
  deriving DecidableEq, Repr

def UriError.message : UriError → String
  | .badOctet index => "invalid percent-encoded octet at index " ++ toString index
  | .unexpected index => "unexpected character at index " ++ toString index
  | .badLiteral index => "invalid IP literal at index " ++ toString index

structure Uri where
  text : String
  deriving DecidableEq, Repr, Inhabited

namespace Uri

def isUnreserved (c : Char) : Bool := c.isAlphanum || c == '-' || c == '.' || c == '_' || c == '~'

def isSubDelimiter (c : Char) : Bool := "!$&'()*+,;=".toList.contains c

def isSchemeChar (c : Char) : Bool := c.isAlphanum || c == '+' || c == '-' || c == '.'

def isUserChar (c : Char) : Bool := isUnreserved c || isSubDelimiter c || c == ':'

def isHostChar (c : Char) : Bool := isUnreserved c || isSubDelimiter c

def isSegmentChar (c : Char) : Bool := isUnreserved c || isSubDelimiter c || c == ':' || c == '@'

def isPathChar (c : Char) : Bool := isSegmentChar c || c == '/'

def isQueryChar (c : Char) : Bool := isPathChar c || c == '?'

def isHexDigit (c : Char) : Bool :=
  c.isDigit || decide ('a' ≤ c ∧ c ≤ 'f') || decide ('A' ≤ c ∧ c ≤ 'F')

structure Cursor where
  index : Nat
  rest : List Char
  deriving DecidableEq, Repr

def skipEncoded (allowed : Char → Bool) : Nat → List Char → Except UriError Cursor
  | index, [] => .ok ⟨index, []⟩
  | index, c :: rest =>
    if c = '%' then
      match rest with
      | a :: b :: rest =>
        if isHexDigit a && isHexDigit b then skipEncoded allowed (index + 3) rest
        else .error (.badOctet index)
      | _ => .error (.badOctet index)
    else if allowed c then skipEncoded allowed (index + 1) rest
    else .ok ⟨index, c :: rest⟩

def Cursor.skip (allowed : Char → Bool) (cursor : Cursor) : Except UriError Cursor :=
  skipEncoded allowed cursor.index cursor.rest

def Cursor.skipPlain (allowed : Char → Bool) (cursor : Cursor) : Cursor :=
  let front := cursor.rest.takeWhile allowed
  ⟨cursor.index + front.length, cursor.rest.drop front.length⟩

def checkTail (cursor : Cursor) : Except UriError Unit := do
  let cursor ←
    match cursor.rest with
    | '?' :: rest => skipEncoded isQueryChar (cursor.index + 1) rest
    | _ => pure cursor
  let cursor ←
    match cursor.rest with
    | '#' :: rest => skipEncoded isQueryChar (cursor.index + 1) rest
    | _ => pure cursor
  if cursor.rest.isEmpty then .ok () else .error (.unexpected cursor.index)

def checkPath (cursor : Cursor) : Except UriError Unit := do
  checkTail (← cursor.skip isPathChar)

def checkPathAfterAuthority (cursor : Cursor) : Except UriError Unit := do
  let stop ← cursor.skip isPathChar
  if stop.index ≠ cursor.index ∧ cursor.rest.head? ≠ some '/' then
    .error (.unexpected cursor.index)
  else checkTail stop

def isDecimalOctet (text : List Char) : Bool :=
  !text.isEmpty && text.all Char.isDigit && decide (text.length ≤ 3) &&
    (text.length == 1 || text.head? != some '0') &&
    decide (natOfDigits text ≤ 255)

def isIpv4 (text : List Char) : Bool :=
  let parts := splitOn '.' text
  parts.length == 4 && parts.all isDecimalOctet

def isHexGroup (text : List Char) : Bool :=
  !text.isEmpty && decide (text.length ≤ 4) && text.all isHexDigit

def groupCount (final : Bool) : List (List Char) → Option Nat
  | [] => some 0
  | [last] =>
    if isHexGroup last then some 1 else if final && isIpv4 last then some 2 else none
  | group :: rest => if isHexGroup group then (groupCount final rest).map (· + 1) else none

def groups (text : List Char) : List (List Char) :=
  if text.isEmpty then [] else splitOn ':' text

def splitDoubleColon : List Char → Option (List Char × List Char)
  | ':' :: ':' :: rest => some ([], rest)
  | c :: rest => (splitDoubleColon rest).map fun (front, back) => (c :: front, back)
  | [] => none

def isIpv6 (text : List Char) : Bool :=
  match splitDoubleColon text with
  | none => groupCount true (groups text) == some 8
  | some (front, back) =>
    match groupCount false (groups front), groupCount true (groups back) with
    | some a, some b => decide (a + b ≤ 7)
    | _, _ => false

def isIpFuture : List Char → Bool
  | c :: rest =>
    (c == 'v' || c == 'V') &&
      (let version := rest.takeWhile isHexDigit
       !version.isEmpty &&
        match rest.drop version.length with
        | '.' :: body => !body.isEmpty && body.all isUserChar
        | _ => false)
  | [] => false

def checkLiteral (cursor : Cursor) : Except UriError Cursor :=
  match cursor.rest with
  | '[' :: rest =>
    let body := rest.takeWhile (· != ']')
    let left := rest.drop body.length
    if left.isEmpty || !(isIpv6 body || isIpFuture body) then .error (.badLiteral cursor.index)
    else .ok ⟨cursor.index + body.length + 2, left.drop 1⟩
  | _ => .ok cursor

def skipPort (cursor : Cursor) : Cursor :=
  match cursor.rest with
  | ':' :: rest => Cursor.skipPlain Char.isDigit ⟨cursor.index + 1, rest⟩
  | _ => cursor

def colonIndices (start : Nat) (text : List Char) : List Nat :=
  (text.zipIdx start).filterMap fun (c, index) => if c = ':' then some index else none

def firstNonDigit (index : Nat) (text : List Char) : Option Nat :=
  ((text.zipIdx index).find? fun (c, _) => !c.isDigit).map Prod.snd

def checkAuthority (start : Cursor) : Except UriError Unit := do
  let stop ← start.skip isUserChar
  match stop.rest with
  | '@' :: rest =>
    let host : Cursor := ⟨stop.index + 1, rest⟩
    let host ← if rest.head? = some '[' then checkLiteral host else host.skip isHostChar
    checkPathAfterAuthority (skipPort host)
  | _ =>
    if stop.index = start.index then
      checkPathAfterAuthority (skipPort (← checkLiteral start))
    else
      let scanned := start.rest.take (stop.index - start.index)
      match colonIndices start.index scanned with
      | [] => checkPathAfterAuthority stop
      | [colon] =>
        let port := scanned.drop (colon + 1 - start.index)
        match firstNonDigit (colon + 1) port with
        | some index => .error (.unexpected index)
        | none => checkPathAfterAuthority stop
      | colons => .error (.unexpected (colons.getLastD 0))

def checkHierarchy (cursor : Cursor) : Except UriError Unit :=
  match cursor.rest with
  | '/' :: '/' :: rest => checkAuthority ⟨cursor.index + 2, rest⟩
  | _ => checkPath cursor

def checkRelative (text : List Char) : Except UriError Unit := do
  let stop ← skipEncoded (fun c => isSegmentChar c && c != ':') 0 text
  if stop.rest.head? = some ':' then .error (.unexpected stop.index) else checkPath stop

def checkReference (text : List Char) : Except UriError Unit :=
  let scheme := text.takeWhile isSchemeChar
  match scheme, text.drop scheme.length with
  | first :: _, ':' :: rest =>
    if first.isAlpha then checkHierarchy ⟨scheme.length + 1, rest⟩ else .error (.unexpected 0)
  | [], '/' :: '/' :: rest => checkAuthority ⟨2, rest⟩
  | _, _ => checkRelative text

def parse (text : String) : Except UriError Uri :=
  match checkReference text.toList with
  | .ok () => .ok ⟨text⟩
  | .error e => .error e

end Uri

end PythonAssist
