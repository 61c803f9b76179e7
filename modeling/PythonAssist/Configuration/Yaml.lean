import PythonAssist.Text.Blank
import PythonAssist.Text.Lines
import PythonAssist.Json.Reader
import PythonAssist.Configuration.NumberWord

set_option autoImplicit false

namespace PythonAssist

namespace Yaml

structure Line where
  indent : Nat
  text : List Char
  deriving DecidableEq, Repr

def isBlank (c : Char) : Bool := c == ' ' || c == '\t'

def skipBlank (text : List Char) : List Char := text.dropWhile isBlank

def Line.of (text : List Char) : Line :=
  let blanks := text.takeWhile (· == ' ')
  { indent := blanks.length, text := text.drop blanks.length }

def Line.raw (line : Line) : List Char := List.replicate line.indent ' ' ++ line.text

def Line.isEmpty (line : Line) : Bool :=
  match skipBlank line.text with
  | [] => true
  | c :: _ => c == '#'

def startsWord (text : List Char) : Bool :=
  match text with
  | [] => true
  | c :: _ => isBlank c

def isItem : List Char → Bool
  | '-' :: rest => startsWord rest
  | _ => false

def specialReal? (word : String) : Option Double :=
  if [".inf", ".Inf", ".INF", "+.inf", "+.Inf", "+.INF"].contains word then some (.infinite false)
  else if ["-.inf", "-.Inf", "-.INF"].contains word then some (.infinite true)
  else if [".nan", ".NaN", ".NAN"].contains word then some .notANumber
  else none

def inBase (base : Nat) (digits : List Char) : Option Int := do
  if digits.isEmpty then none
  else
    let n ← digits.foldl (fun n c => do
      let d ← Json.hex? c
      if d < base then return (← n) * base + d else none) (some 0)
    if n ≤ 9223372036854775807 then some (n : Int) else none

def wholeNumber? (word : List Char) : Option Int :=
  match word with
  | '0' :: 'x' :: digits => inBase 16 digits
  | '0' :: 'o' :: digits => inBase 8 digits
  | word => integerWord? word

-- What a word without quotes stands for. The special real numbers are no configuration values.
def plain (word : List Char) : Option Json :=
  let text := String.ofList word
  match wholeNumber? word with
  | some n => some (.integer n)
  | none =>
    if text = "" ∨ text = "~" ∨ text = "null" then some .null
    else if text = "true" then some (.bool true)
    else if text = "false" then some (.bool false)
    else if (specialReal? text).isSome then none
    else if word.any Char.isDigit then
      match realWord? word with
      | some x => some (.number (.real x))
      | none => some (.string text)
    else some (.string text)

def plainKey (word : List Char) : Option String :=
  match plain word with
  | some .null => none
  | some (.number (.integer n)) => some (toString n)
  | _ => some (String.ofList word)

-- A break between two lines counts as a blank, and further breaks as themselves.
def folded (gap : List Char) : List Char :=
  match gap.count '\n' with
  | 0 => gap
  | 1 => [' ']
  | n + 2 => List.replicate (n + 1) '\n'

def isGap (c : Char) : Bool := isBlank c || c == '\n'

def singleQuoted : Nat → List Char → Option (List Char × List Char)
  | 0, _ => none
  | _ + 1, [] => none
  | fuel + 1, '\'' :: '\'' :: rest => do
    let (text, left) ← singleQuoted fuel rest
    some ('\'' :: text, left)
  | _ + 1, '\'' :: rest => some ([], rest)
  | fuel + 1, c :: rest =>
    if isGap c then do
      let gap := (c :: rest).takeWhile isGap
      let (text, left) ← singleQuoted fuel ((c :: rest).drop gap.length)
      some (folded gap ++ text, left)
    else do
      let (text, left) ← singleQuoted fuel rest
      some (c :: text, left)

def codePoint (count : Nat) (text : List Char) : Option (List Char × List Char) := do
  let digits := text.take count
  if digits.length < count then none
  else
    let n ← digits.foldl (fun n c => do return (← n) * 16 + (← Json.hex? c)) (some 0)
    if n.isValidChar then some ([Char.ofNat n], text.drop count) else none

def escape : List Char → Option (List Char × List Char)
  | [] => none
  | c :: rest =>
    let one (n : Nat) : Option (List Char × List Char) := some ([Char.ofNat n], rest)
    match c with
    | '0' => one 0
    | 'a' => one 7
    | 'b' => one 8
    | 't' => one 9
    | '\t' => one 9
    | 'n' => one 10
    | 'v' => one 11
    | 'f' => one 12
    | 'r' => one 13
    | 'e' => one 27
    | ' ' => one 32
    | '"' => one 34
    | '/' => one 47
    | '\\' => one 92
    | 'N' => one 0x85
    | '_' => one 0xA0
    | 'L' => one 0x2028
    | 'P' => one 0x2029
    | 'x' => codePoint 2 rest
    | 'u' => codePoint 4 rest
    | 'U' => codePoint 8 rest
    | '\n' => some ([], skipBlank rest)
    | _ => none

def doubleQuoted : Nat → List Char → Option (List Char × List Char)
  | 0, _ => none
  | _ + 1, [] => none
  | _ + 1, '"' :: rest => some ([], rest)
  | fuel + 1, '\\' :: rest => do
    let (found, rest) ← escape rest
    let (text, left) ← doubleQuoted fuel rest
    some (found ++ text, left)
  | fuel + 1, c :: rest =>
    if isGap c then do
      let gap := (c :: rest).takeWhile isGap
      let (text, left) ← doubleQuoted fuel ((c :: rest).drop gap.length)
      some (folded gap ++ text, left)
    else do
      let (text, left) ← doubleQuoted fuel rest
      some (c :: text, left)

def quoted (text : List Char) : Option (List Char × List Char) :=
  match text with
  | '"' :: rest => doubleQuoted (rest.length + 1) rest
  | '\'' :: rest => singleQuoted (rest.length + 1) rest
  | _ => none

def isBracket (c : Char) : Bool :=
  c == ',' || c == '[' || c == ']' || c == '\x7b' || c == '\x7d'

def isIndicator (c : Char) : Bool :=
  isBracket c || "#&*!|>'\"%@".toList.contains c || c.toNat == 96

def opensPlain : List Char → Bool
  | [] => false
  | c :: rest =>
    if c == '-' || c == '?' || c == ':' then !startsWord rest && rest.head? != some '\n'
    else !isIndicator c

def skipGap : Nat → List Char → List Char
  | 0, text => text
  | fuel + 1, text =>
    match text.dropWhile isGap with
    | '#' :: rest => skipGap fuel (rest.dropWhile (· != '\n'))
    | rest => rest

def skipGaps (text : List Char) : List Char := skipGap (text.length + 1) text

def flowWord : List Char → List Char
  | [] => []
  | c :: rest =>
    if isBracket c then []
    else if c == ':' && rest.head?.all (fun next => isGap next || isBracket next) then []
    else if isGap c && rest.head? == some '#' then []
    else c :: flowWord rest

def foldWords : Nat → List Char → List Char
  | 0, text => text
  | _ + 1, [] => []
  | fuel + 1, c :: rest =>
    if isGap c then
      let gap := (c :: rest).takeWhile isGap
      folded gap ++ foldWords fuel ((c :: rest).drop gap.length)
    else c :: foldWords fuel rest

def joined (word : List Char) : List Char :=
  let word := (word.reverse.dropWhile isGap).reverse
  foldWords word.length word

def flowKey (text : List Char) : Option (String × List Char) :=
  match text with
  | [] => none
  | c :: _ =>
    if c == '"' || c == '\'' then do
      let (key, left) ← quoted text
      some (String.ofList key, left)
    else if opensPlain text then do
      let word := flowWord text
      let key ← plainKey (joined word)
      some (key, text.drop word.length)
    else none

def addField (key : String) (value : Json) (fields : List (String × Json)) :
    Option (List (String × Json)) :=
  if (Json.field? key fields).isSome then none else some (Json.insert key value fields)

mutual
def flow : Nat → List Char → Option (Json × List Char)
  | 0, _ => none
  | _ + 1, [] => none
  | fuel + 1, c :: rest =>
    if c = '[' then flowItems fuel (skipGaps rest)
    else if c = '\x7b' then flowFields fuel [] (skipGaps rest)
    else if c = '"' ∨ c = '\'' then do
      let (text, left) ← quoted (c :: rest)
      some (.string (String.ofList text), left)
    else if opensPlain (c :: rest) then do
      let word := flowWord (c :: rest)
      let value ← plain (joined word)
      some (value, (c :: rest).drop word.length)
    else none

def flowItem : Nat → List Char → Option (Json × List Char)
  | 0, _ => none
  | fuel + 1, text => do
    let (value, left) ← flow fuel text
    match skipGaps left with
    | ':' :: _ => do
      let (key, left) ← flowKey text
      let (value, left) ← flowValue fuel (skipGaps left)
      some (.object [(key, value)], left)
    | _ => some (value, left)

def flowItems : Nat → List Char → Option (Json × List Char)
  | 0, _ => none
  | fuel + 1, text =>
    match text with
    | ']' :: left => some (.array [], left)
    | text => do
      let (first, left) ← flowItem fuel text
      match skipGaps left with
      | ',' :: left =>
        match ← flowItems fuel (skipGaps left) with
        | (.array rest, left) => some (.array (first :: rest), left)
        | _ => none
      | ']' :: left => some (.array [first], left)
      | _ => none

def flowValue : Nat → List Char → Option (Json × List Char)
  | 0, _ => none
  | fuel + 1, text =>
    match text with
    | ':' :: left =>
      match skipGaps left with
      | c :: left =>
        if c = ',' ∨ c = '\x7d' ∨ c = ']' then some (.null, c :: left)
        else flow fuel (c :: left)
      | [] => none
    | text => some (.null, text)

def flowFields : Nat → List (String × Json) → List Char → Option (Json × List Char)
  | 0, _, _ => none
  | fuel + 1, known, text =>
    match text with
    | '\x7d' :: left => some (.object known, left)
    | text => do
      let (key, left) ← flowKey text
      let (value, left) ← flowValue fuel (skipGaps left)
      let known ← addField key value known
      match skipGaps left with
      | ',' :: left => flowFields fuel known (skipGaps left)
      | '\x7d' :: left => some (.object known, left)
      | _ => none
end

def plainKeySplit : List Char → Option (List Char × List Char)
  | [] => none
  | c :: rest =>
    if c == ':' && startsWord rest then some ([], rest)
    else if isBlank c && rest.head? == some '#' then none
    else (plainKeySplit rest).map fun (key, tail) => (c :: key, tail)

def keyed (text : List Char) : Option (Option String × List Char) :=
  match text with
  | [] => none
  | c :: _ =>
    if c == '"' || c == '\'' then
      match quoted text with
      | none => none
      | some (key, left) =>
        match skipBlank left with
        | ':' :: tail =>
          if startsWord tail then some (some (String.ofList key), tail) else none
        | _ => none
    else if opensPlain text then
      (plainKeySplit text).map fun (key, tail) =>
        (plainKey (key.reverse.dropWhile isBlank).reverse, tail)
    else none

def dropComment : List Char → List Char
  | [] => []
  | c :: rest =>
    if isBlank c && rest.head? == some '#' then [] else c :: dropComment rest

def hasComment (text : List Char) : Bool := (dropComment text).length < text.length

def plainLines (first : List Char) (more : List Line) : Option Json :=
  let others := more.filter fun line => !(skipBlank line.text).isEmpty
  if hasComment first && others.any (fun line => !line.isEmpty) then none
  else
    let comments := others.dropWhile fun line => !line.isEmpty
    if !comments.all Line.isEmpty then none
    else
      let shown := more.takeWhile fun line =>
        (skipBlank line.text).isEmpty || !line.isEmpty
      if (first :: shown.map Line.text).any (fun text => (plainKeySplit text).isSome) then none
      else if shown.dropLast.any (fun line => hasComment line.text) then none
      else
        let pieces := dropComment first :: shown.map fun line => '\n' :: dropComment line.text
        plain (joined pieces.flatten)

inductive Chomp where
  | clip
  | strip
  | keep
  deriving DecidableEq, Repr

structure BlockHeader where
  chomp : Chomp
  extra : Option Nat

def blockHeader (text : List Char) : Option BlockHeader :=
  let marks := text.takeWhile fun c => !isBlank c
  let tail := text.drop marks.length
  if !(Line.of tail).isEmpty then none
  else
    match marks with
    | [] => some { chomp := .clip, extra := none }
    | [a] => if a.isDigit then some { chomp := .clip, extra := digit a } else sign a none
    | [a, b] =>
      if a.isDigit then sign b (digit a) else if b.isDigit then sign a (digit b) else none
    | _ => none
where
  digit (c : Char) : Option Nat := some (c.toNat - 48)
  sign (c : Char) (extra : Option Nat) : Option BlockHeader :=
    if c = '-' then some { chomp := .strip, extra }
    else if c = '+' then some { chomp := .keep, extra }
    else none

def contentAt (column : Nat) (line : Line) : List Char := line.raw.drop column

def literalLines (lines : List (List Char)) : List Char := ['\n'].intercalate lines

def foldedLines : List (List Char) → List Char
  | [] => []
  | [line] => line
  | line :: next :: rest =>
    if line.isEmpty then '\n' :: foldedLines (next :: rest)
    else
      let blanks := (next :: rest).takeWhile List.isEmpty
      let following := ((next :: rest).drop blanks.length).headD []
      let kept := line.head?.any isBlank || following.head?.any isBlank
      if next.isEmpty then
        line ++ (if kept then ['\n'] else []) ++ foldedLines (next :: rest)
      else line ++ (if kept then '\n' else ' ') :: foldedLines (next :: rest)

def blockText (fold : Bool) (parent : Nat) (header : List Char) (lines : List Line) :
    Option Json := do
  let header ← blockHeader header
  let isVoid (line : Line) : Bool := line.text.isEmpty
  let column :=
    match header.extra with
    | some extra => parent + extra
    | none => (((lines.filter fun line => !isVoid line).head?).map Line.indent).getD 0
  if lines.any fun line => !isVoid line && decide (line.indent < column) then none
  else
    let all := lines.map (contentAt column)
    let body := (all.reverse.dropWhile List.isEmpty).reverse
    let text := if fold then foldedLines body else literalLines body
    let ending :=
      match header.chomp with
      | .strip => []
      | .clip => if body.isEmpty then [] else ['\n']
      | .keep => List.replicate (all.length - body.length + if body.isEmpty then 0 else 1) '\n'
    some (.string (String.ofList (text ++ ending)))

def inlineValue (parent : Nat) (text : List Char) (more : List Line) : Option Json :=
  match text with
  | '|' :: header => blockText false parent header more
  | '>' :: header => blockText true parent header more
  | c :: _ =>
    if c == '"' || c == '\'' || c == '[' || c == '\x7b' then
      let whole := text ++ (more.map fun line => '\n' :: line.raw).flatten
      match flow (2 * whole.length + 2) whole with
      | some (value, left) => if (skipGaps left).isEmpty then some value else none
      | none => none
    else if opensPlain text then plainLines text more
    else none
  | [] => none

mutual
def block : Nat → Nat → List Line → Option Json
  | 0, _, _ => none
  | fuel + 1, parent, lines =>
    match lines.dropWhile Line.isEmpty with
    | [] => some .null
    | first :: rest =>
      if isItem first.text then (items fuel first.indent (first :: rest)).map .array
      else if (keyed first.text).isSome then
        (entries fuel first.indent [] (first :: rest)).map .object
      else inlineValue parent first.text rest

def items : Nat → Nat → List Line → Option (List Json)
  | 0, _, _ => none
  | fuel + 1, indent, lines =>
    match lines.dropWhile Line.isEmpty with
    | [] => some []
    | line :: rest =>
      if line.indent != indent || !isItem line.text then none
      else do
        let after := line.text.drop 1
        let gap := after.takeWhile isBlank
        let inner : Line :=
          { indent := indent + 1 + gap.length, text := after.drop gap.length }
        let own := rest.takeWhile fun line => line.isEmpty || decide (indent < line.indent)
        let first ← block fuel indent (inner :: own)
        let others ← items fuel indent (rest.drop own.length)
        some (first :: others)

-- A list under a key may stand as far left as the key itself.
def entries : Nat → Nat → List (String × Json) → List Line → Option (List (String × Json))
  | 0, _, _, _ => none
  | fuel + 1, indent, known, lines =>
    match lines.dropWhile Line.isEmpty with
    | [] => some known
    | line :: rest =>
      if line.indent != indent then none
      else do
        let (key, tail) ← keyed line.text
        let key ← key
        let void := (Line.of (skipBlank tail)).isEmpty
        let own := rest.takeWhile fun line =>
          line.isEmpty || decide (indent < line.indent) ||
            (void && line.indent == indent && isItem line.text)
        let value ←
          if void then block fuel indent own else inlineValue indent (skipBlank tail) own
        let known ← addField key value known
        entries fuel indent known (rest.drop own.length)
end

def isMarker (mark : Char) (line : Line) : Bool :=
  line.indent == 0 && line.text.take 3 == [mark, mark, mark] && startsWord (line.text.drop 3)

def isDirective (line : Line) : Bool := line.indent == 0 && line.text.head? == some '%'

def document (lines : List Line) : Option (Bool × List Line) :=
  let (opened, lines) : Bool × List Line :=
    match lines.dropWhile fun line => line.isEmpty || isDirective line with
    | [] => (false, [])
    | first :: rest =>
      if isMarker '-' first then (true, Line.of (first.text.drop 3) :: rest)
      else (false, first :: rest)
  let body := lines.takeWhile fun line => !isMarker '-' line && !isMarker '.' line
  match lines.drop body.length with
  | [] => some (opened, body)
  | mark :: rest =>
    if isMarker '.' mark && rest.all Line.isEmpty then some (opened, body) else none

def lines (text : String) : List Line :=
  let all := (Lines.split text.toList).map fun line => Line.of (Lines.content line)
  if all.getLast? = some { indent := 0, text := [] } then all.dropLast else all

def read (text : String) : Option (List (String × Json)) := do
  let (opened, body) ← document (lines text)
  if !opened && body.all Line.isEmpty then some []
  else
    match block (2 * text.length + 2) 0 body with
    | some (.object fields) => some fields
    | _ => none

end Yaml

end PythonAssist
