import PythonAssist.Diff.Script

set_option autoImplicit false

namespace PythonAssist.Diff

variable {A : Type} [DecidableEq A]

def commonFront : List A → List A → List A × List A × List A
  | a :: old, b :: new =>
    if a = b then
      let (shared, old', new') := commonFront old new
      (a :: shared, old', new')
    else ([], a :: old, b :: new)
  | old, new => ([], old, new)

def commonBack (old new : List A) : List A × List A × List A :=
  let (shared, old', new') := commonFront old.reverse new.reverse
  (shared.reverse, old'.reverse, new'.reverse)

def runLength (old new : Array A) (x y : Nat) : Nat :=
  go (min (old.size - x) (new.size - y)) x y
where
  go : Nat → Nat → Nat → Nat
    | 0, _, _ => 0
    | fuel + 1, x, y =>
      match old[x]?, new[y]? with
      | some a, some b => if a = b then go fuel (x + 1) (y + 1) + 1 else 0
      | _, _ => 0

-- The furthest old index reached on each diagonal, shifted so that diagonals may be negative.
structure Frontier where
  shift : Nat
  reached : Array Nat

namespace Frontier

def start (limit : Nat) : Frontier :=
  { shift := limit + 1, reached := Array.replicate (2 * limit + 3) 0 }

def get (f : Frontier) (diagonal : Int) : Nat :=
  f.reached.getD (diagonal + f.shift).toNat 0

def set (f : Frontier) (diagonal : Int) (x : Nat) : Frontier :=
  { f with reached := f.reached.setIfInBounds (diagonal + f.shift).toNat x }

def enter (f : Frontier) (steps diagonal : Int) : Nat :=
  if diagonal = -steps ∨ (diagonal ≠ steps ∧ f.get (diagonal - 1) < f.get (diagonal + 1)) then
    f.get (diagonal + 1)
  else
    f.get (diagonal - 1) + 1

end Frontier

def diagonals (steps : Nat) : List Int :=
  (List.range (steps + 1)).map fun (i : Nat) => (steps : Int) - 2 * (i : Int)

-- One sweep over the diagonals. The result is where a path entered the diagonal on which it
-- met a path from the other end, and how far it then ran.
def sweep (old new : Array A) (steps : Nat) (other : Frontier) (meets : Int → Bool) :
    List Int → Frontier → Frontier × Option (Nat × Int × Nat)
  | [], mine => (mine, none)
  | diagonal :: rest, mine =>
    let x := mine.enter steps diagonal
    let y : Int := (x : Int) - diagonal
    let run := if y < 0 then 0 else runLength old new x y.toNat
    let mine := mine.set diagonal (x + run)
    let delta : Int := (old.size : Int) - new.size
    if meets diagonal && decide (old.size ≤ x + run + other.get (delta - diagonal)) then
      (mine, some (x, y, run))
    else
      sweep old new steps other meets rest mine

structure Ends (A : Type) where
  old : Array A
  new : Array A
  oldBack : Array A
  newBack : Array A

def rounds (ends : Ends A) : Nat → Nat → Frontier → Frontier → Option (Nat × Nat)
  | 0, _, _, _ => none
  | fuel + 1, steps, forward, backward =>
    let delta : Int := (ends.old.size : Int) - ends.new.size
    let odd := delta % 2 != 0
    let near (bound : Int) (diagonal : Int) : Bool :=
      decide ((diagonal - delta).natAbs ≤ bound)
    let front := sweep ends.old ends.new steps backward
      (fun k => odd && near ((steps : Int) - 1) k) (diagonals steps) forward
    match front.2 with
    | some (x, y, _) => some (x, y.toNat)
    | none =>
      let back := sweep ends.oldBack ends.newBack steps front.1
        (fun k => !odd && near steps k) (diagonals steps) backward
      match back.2 with
      | some (x, y, run) =>
        some (ends.old.size - (x + run), ((ends.new.size : Int) - (y + run)).toNat)
      | none => rounds ends fuel (steps + 1) front.1 back.1

def middle (old new : List A) : Option (Nat × Nat) :=
  let limit := (old.length + new.length + 1) / 2 + 1
  rounds
    { old := old.toArray, new := new.toArray
      oldBack := old.reverse.toArray, newBack := new.reverse.toArray }
    limit 0 (.start limit) (.start limit)

def keep (lines : List A) (script : List (Block A)) : List (Block A) :=
  if lines.isEmpty then script else .equal lines :: script

-- Divide at a middle point and search both halves. Without one the rest is replaced as a whole.
def search : Nat → List A → List A → List (Block A)
  | 0, old, new => [.delete old, .insert new]
  | fuel + 1, old, new =>
    let (front, old, new) := commonFront old new
    let (back, old, new) := commonBack old new
    let between : List (Block A) :=
      match old, new with
      | [], [] => []
      | old, [] => [.delete old]
      | [], new => [.insert new]
      | old, new =>
        match middle old new with
        | some (x, y) =>
          search fuel (old.take x) (new.take y) ++ search fuel (old.drop x) (new.drop y)
        | none => [.delete old, .insert new]
    keep front (between ++ keep back [])

end PythonAssist.Diff
