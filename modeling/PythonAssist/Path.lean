import PythonAssist.Text.Utf8

set_option autoImplicit false

namespace PythonAssist

structure Path where
  bytes : Bytes
  deriving DecidableEq, Repr, Inhabited

namespace Path

inductive Component where
  | root
  | current
  | parent
  | named (name : Bytes)
  deriving DecidableEq, Repr

def slash : UInt8 := 47

def dot : UInt8 := 46

def ofString (text : String) : Path := { bytes := Utf8.encode text }

def toString? (path : Path) : Option String := Utf8.decode? path.bytes

def display (path : Path) : String := Utf8.decodeLossy path.bytes

def isAbsolute (path : Path) : Bool := path.bytes.head? == some slash

def splitSlashes : Bytes → List Bytes
  | [] => [[]]
  | b :: rest =>
    if b = slash then [] :: splitSlashes rest
    else
      match splitSlashes rest with
      | [] => [[b]]
      | first :: others => (b :: first) :: others

def component (name : Bytes) : Option Component :=
  if name = [] ∨ name = [dot] then none
  else if name = [dot, dot] then some .parent
  else some (.named name)

-- Repeated slashes and dots do not count, except for a dot at the very front.
def components (path : Path) : List Component :=
  let pieces := splitSlashes path.bytes
  let front : List Component :=
    if path.isAbsolute then [.root]
    else if pieces.head? = some [dot] then [.current]
    else []
  front ++ pieces.filterMap component

def same (a b : Path) : Bool := a.components == b.components

def Component.rank : Component → Nat
  | .root => 0
  | .current => 1
  | .parent => 2
  | .named _ => 3

def bytesBefore : Bytes → Bytes → Bool
  | [], [] => false
  | [], _ :: _ => true
  | _ :: _, [] => false
  | a :: as, b :: bs => if a = b then bytesBefore as bs else decide (a < b)

def Component.before : Component → Component → Bool
  | .named a, .named b => bytesBefore a b
  | a, b => decide (a.rank < b.rank)

def componentsBefore : List Component → List Component → Bool
  | [], [] => false
  | [], _ :: _ => true
  | _ :: _, [] => false
  | a :: as, b :: bs => if a = b then componentsBefore as bs else a.before b

def before (a b : Path) : Bool := componentsBefore a.components b.components

def join (path : Path) (name : String) : Path :=
  let added := ofString name
  if added.isAbsolute then added
  else if path.bytes = [] ∨ path.bytes.getLast? = some slash then
    { bytes := path.bytes ++ added.bytes }
  else { bytes := path.bytes ++ slash :: added.bytes }

end Path

end PythonAssist
