import PythonAssist.Text.Blank
import PythonAssist.Json.Reader

set_option autoImplicit false

namespace PythonAssist

structure IniSection where
  name : Option String
  entries : List (String × String)
  deriving DecidableEq, Repr

namespace Ini

def isLineEnd (c : Char) : Bool := c == '\n' || c == '\r'

def escaped? (c : Char) : Option (List Char) :=
  match c with
  | '0' => some [Char.ofNat 0]
  | 'a' => some [Char.ofNat 7]
  | 'b' => some [Char.ofNat 8]
  | 't' => some ['\t']
  | 'r' => some ['\r']
  | 'n' => some ['\n']
  | '\n' => some []
  | c => some [c]

def codePoint? (a b c d : Char) : Option Char := do
  let n ← Json.hex4? a b c d
  if n.isValidChar then some (Char.ofNat n) else none

def scan (stops : Char → Bool) (mayEnd : Bool) : List Char → Option (List Char × List Char)
  | [] => if mayEnd then some ([], []) else none
  | '\\' :: rest =>
    if stops '\\' then some ([], '\\' :: rest)
    else
      match rest with
      | [] => none
      | 'x' :: a :: b :: c :: d :: left =>
        match codePoint? a b c d with
        | none => none
        | some found => do
          let (text, left) ← scan stops mayEnd left
          some (found :: text, left)
      | 'x' :: _ => none
      | c :: left =>
        match escaped? c with
        | none => none
        | some found => do
          let (text, left) ← scan stops mayEnd left
          some (found ++ text, left)
  | c :: rest =>
    if stops c then some ([], c :: rest)
    else do
      let (text, left) ← scan stops mayEnd rest
      some (c :: text, left)

def skipSpace (text : List Char) : List Char := text.dropWhile isWhiteSpace

def skipSpaceOnLine (text : List Char) : List Char :=
  text.dropWhile fun c => isWhiteSpace c && !isLineEnd c

-- Quoted pieces keep their blanks; the blanks around the first plain piece are dropped, and those
-- behind a later one.
def valueFrom : Nat → Bool → List Char → Option (List Char × List Char)
  | 0, _, _ => none
  | _ + 1, _, [] => some ([], [])
  | fuel + 1, first, c :: rest =>
    if c = '"' ∨ c = '\'' then do
      let (quoted, left) ← scan (· == c) false rest
      let (tail, left) ← valueFrom fuel false (left.drop 1)
      some (quoted ++ tail, left)
    else do
      let (plain, left) ← scan isLineEnd true (c :: rest)
      some (if first then trimChars plain else trimBack plain, left)

def value (text : List Char) : Option (List Char × List Char) :=
  valueFrom (text.length + 1) true (skipSpaceOnLine text)

def afterLine (text : List Char) : List Char := (text.dropWhile (· != '\n')).drop 1

-- Sections in reverse, with their entries in reverse.
abbrev Draft := List IniSection

def addEntry (key value : String) : Draft → Draft
  | [] => [{ name := none, entries := [(key, value)] }]
  | last :: rest => { last with entries := (key, value) :: last.entries } :: rest

def sectionsFrom : Nat → String → Draft → List Char → Option Draft
  | 0, _, _, _ => none
  | fuel + 1, key, draft, text =>
    match skipSpace text with
    | [] => some draft
    | c :: rest =>
      if c = ';' ∨ c = '#' then sectionsFrom fuel key draft (afterLine (c :: rest))
      else if c = '[' then do
        let (name, left) ← scan (· == ']') false rest
        let opened : IniSection := { name := some (trim (String.ofList name)), entries := [] }
        sectionsFrom fuel key (opened :: draft) (left.drop 1)
      else if c = '=' ∨ c = ':' then
        if key.isEmpty then none
        else do
          let (found, left) ← value rest
          sectionsFrom fuel "" (addEntry key (String.ofList found) draft) left
      else do
        let (name, left) ← scan (fun c => c == '=' || c == ':') true (c :: rest)
        sectionsFrom fuel (trim (String.ofList name)) draft left

def sections (text : String) : Option (List IniSection) :=
  (sectionsFrom (2 * text.length + 2) "" [] text.toList).map fun draft =>
    draft.reverse.map fun part => { part with entries := part.entries.reverse }

def entryFields (entries : List (String × String)) : List (String × Json) :=
  entries.foldl (fun fields entry => Json.insert entry.1 (.string entry.2) fields) []

def addSection (fields : List (String × Json)) (part : IniSection) : List (String × Json) :=
  match part.name with
  | some name => Json.insert name (.object (entryFields part.entries)) fields
  | none =>
    part.entries.foldl (fun fields entry => Json.insert entry.1 (.string entry.2) fields) fields

def read (text : String) : Option (List (String × Json)) :=
  (sections text).map fun parts => parts.foldl addSection []

end Ini

end PythonAssist
