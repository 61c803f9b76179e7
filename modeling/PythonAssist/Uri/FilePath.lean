import PythonAssist.Path
import PythonAssist.Uri.Reference

set_option autoImplicit false

namespace PythonAssist

namespace Uri

def hexValue (c : Char) : Nat :=
  if c.isDigit then c.toNat - 48
  else if 'a' ≤ c ∧ c ≤ 'f' then c.toNat - 87
  else c.toNat - 55

def percentDecode : List Char → Bytes
  | '%' :: a :: b :: rest =>
    if isHexDigit a && isHexDigit b then
      UInt8.ofNat (hexValue a * 16 + hexValue b) :: percentDecode rest
    else Utf8.encode "%" ++ percentDecode (a :: b :: rest)
  | c :: rest => String.utf8EncodeChar c ++ percentDecode rest
  | [] => []

def hexDigits (n : Nat) : List Char := (Nat.toDigits 16 n).map Char.toUpper

def percentEncodeByte (b : UInt8) : List Char :=
  let digits := hexDigits b.toNat
  '%' :: (if digits.length < 2 then '0' :: digits else digits)

def mustEncode (b : UInt8) : Bool :=
  decide (b.toNat < 32) || decide (126 < b.toNat) ||
    " \"#%/<>?\\`\x7b\x7d".toList.any fun c => c.toNat == b.toNat

def encodeName (name : Bytes) : List Char :=
  name.flatMap fun b => if mustEncode b then percentEncodeByte b else [Char.ofNat b.toNat]

def componentText : Path.Component → List Char
  | .root => []
  | .current => ['.']
  | .parent => ['.', '.']
  | .named name => encodeName name

def fileText (path : Path) : Option (List Char) :=
  if path.isAbsolute then
    let names := path.components.drop 1
    let tail := if names.isEmpty then ['/'] else names.flatMap fun c => '/' :: componentText c
    some ("file://".toList ++ tail)
  else none

inductive PathError where
  | notAbsolute (path : Path)
  | notUri (path : Path) (cause : UriError)
  deriving DecidableEq, Repr

def PathError.message : PathError → String
  | .notAbsolute path => "Invalid path for URI: " ++ path.display
  | .notUri path cause => "Invalid path for URI: " ++ path.display ++ ": " ++ cause.message

def ofPath (path : Path) : Except PathError Uri :=
  match fileText path with
  | none => .error (.notAbsolute path)
  | some text =>
    match parse (String.ofList text) with
    | .ok uri => .ok uri
    | .error cause => .error (.notUri path cause)

def lower (text : List Char) : List Char := text.map Char.toLower

def isSingleDot (segment : List Char) : Bool :=
  ["." , "%2e"].any fun s => s.toList == lower segment

def isDoubleDot (segment : List Char) : Bool :=
  ["..", ".%2e", "%2e.", "%2e%2e"].any fun s => s.toList == lower segment

def isDrive : List Char → Bool
  | [c, ':'] => c.isAlpha
  | _ => false

-- Segments are collected backwards. A drive at the front of a file path is never left.
def leave (file : Bool) : List (List Char) → List (List Char)
  | [] => []
  | [only] => if file && isDrive only then [only] else []
  | _ :: rest => rest

def resolve (file : Bool) : List (List Char) → List (List Char) → List (List Char)
  | done, [] => done.reverse
  | done, [segment] =>
    if isDoubleDot segment then ([] :: leave file done).reverse
    else if isSingleDot segment then ([] :: done).reverse
    else (segment :: done).reverse
  | done, segment :: rest =>
    if isDoubleDot segment then resolve file (leave file done) rest
    else if isSingleDot segment then resolve file done rest
    else resolve file (segment :: done) rest

def segments (file : Bool) (text : List Char) : List (List Char) :=
  let text := match text with
    | '/' :: rest => rest
    | rest => rest
  let found := resolve file [] (splitOn '/' text)
  if file then
    match found.dropWhile List.isEmpty with
    | [] => [[]]
    | kept => kept
  else found

-- A last segment that ends like a drive gets a slash behind it.
def closeDrive (bytes : Bytes) : Bytes :=
  match bytes.reverse with
  | colon :: letter :: _ :: _ =>
    if (colon.toNat = 58 ∨ colon.toNat = 124) ∧ (Char.ofNat letter.toNat).isAlpha then
      bytes ++ [Path.slash]
    else bytes
  | _ => bytes

def pathOfSegments (found : List (List Char)) : Path :=
  { bytes := closeDrive (found.flatMap fun segment => Path.slash :: percentDecode segment) }

def beforeAny (stops : List Char) (text : List Char) : List Char × List Char :=
  let front := text.takeWhile fun c => !stops.contains c
  (front, text.drop front.length)

def isLocalHost (host : List Char) : Bool :=
  (percentDecode host).map (fun b => (Char.ofNat b.toNat).toLower) == "localhost".toList

def afterUser (authority : List Char) : List Char :=
  (authority.reverse.takeWhile (· != '@')).reverse

def portHolds (text : List Char) : Bool :=
  text.isEmpty ||
    (text.all Char.isDigit && decide (natOfDigits text ≤ 65535))

def hostOf (authority : List Char) : Option (List Char) :=
  let (host, port) := beforeAny [':'] (afterUser authority)
  if portHolds (port.drop 1) then some host else none

def isWebScheme (scheme : String) : Bool :=
  ["http", "https", "ws", "wss", "ftp"].contains scheme

def withoutTail (text : List Char) : List Char := (beforeAny ['?', '#'] text).1

def filePath (rest : List Char) : Option Path :=
  match rest with
  | '/' :: '/' :: rest =>
    let (host, path) := beforeAny ['/'] rest
    if isDrive host then some (pathOfSegments (segments true rest))
    else if host.isEmpty || isLocalHost host then some (pathOfSegments (segments true path))
    else none
  | rest => some (pathOfSegments (segments true rest))

def webPath (rest : List Char) : Option Path :=
  let (authority, path) := beforeAny ['/'] (rest.dropWhile (· == '/'))
  match hostOf authority with
  | some host => if isLocalHost host then some (pathOfSegments (segments false path)) else none
  | none => none

def plainPath (rest : List Char) : Option Path :=
  match rest with
  | '/' :: '/' :: rest =>
    let (authority, path) := beforeAny ['/'] rest
    match hostOf authority with
    | some host =>
      if path.isEmpty then none
      else if authority.isEmpty || host == "localhost".toList then
        some (pathOfSegments (segments false path))
      else none
    | none => none
  | '/' :: rest => some (pathOfSegments (segments false ('/' :: rest)))
  | _ => none

def toPath (uri : Uri) : Option Path :=
  let text := uri.text.toList
  let scheme := text.takeWhile isSchemeChar
  match scheme, text.drop scheme.length with
  | first :: _, ':' :: rest =>
    let name := String.ofList (lower scheme)
    let rest := withoutTail rest
    if !first.isAlpha then none
    else if name = "file" then filePath rest
    else if isWebScheme name then webPath rest
    else plainPath rest
  | _, _ => none

end Uri

end PythonAssist
