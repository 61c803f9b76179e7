set_option autoImplicit false

namespace PythonAssist

-- A finite map kept as a list of entries; the first entry of a key counts.
structure Table (K V : Type) where
  entries : List (K × V)
  deriving Repr

namespace Table

variable {K V : Type} [DecidableEq K]

def empty : Table K V := { entries := [] }

instance : Inhabited (Table K V) := ⟨empty⟩

def lookup (key : K) : List (K × V) → Option V
  | [] => none
  | (k, v) :: rest => if k = key then some v else lookup key rest

def find? (table : Table K V) (key : K) : Option V := lookup key table.entries

def contains (table : Table K V) (key : K) : Bool := (table.find? key).isSome

def erase (table : Table K V) (key : K) : Table K V :=
  { entries := table.entries.filter fun entry => decide (entry.1 ≠ key) }

def insert (table : Table K V) (key : K) (value : V) : Table K V :=
  { entries := (table.erase key).entries ++ [(key, value)] }

def keys (table : Table K V) : List K := table.entries.map Prod.fst

def values (table : Table K V) : List V := table.entries.map Prod.snd

def filter (table : Table K V) (keep : K → V → Bool) : Table K V :=
  { entries := table.entries.filter fun entry => keep entry.1 entry.2 }

theorem lookup_append (key : K) (first second : List (K × V)) :
    lookup key (first ++ second) = (lookup key first).or (lookup key second) := by
  induction first with
  | nil => simp [lookup]
  | cons entry rest ih =>
    obtain ⟨k, v⟩ := entry
    by_cases h : k = key <;> simp [lookup, h, ih]

theorem lookup_filter_ne (key other : K) (entries : List (K × V)) :
    lookup key (entries.filter fun entry => decide (entry.1 ≠ other)) =
      if key = other then none else lookup key entries := by
  induction entries with
  | nil => simp [lookup]
  | cons entry rest ih =>
    obtain ⟨k, v⟩ := entry
    by_cases h : k = other
    next =>
      by_cases hk : key = other
      next => simpa [List.filter_cons, h, hk] using ih
      next =>
        have : other ≠ key := fun e => hk e.symm
        simpa [List.filter_cons, h, hk, lookup, this] using ih
    next =>
      by_cases hk : k = key
      next =>
        have : key ≠ other := fun e => h (hk.trans e)
        simp [lookup, hk, this]
      next => simpa [List.filter_cons, h, lookup, hk] using ih

theorem find?_erase (table : Table K V) (key other : K) :
    (table.erase other).find? key = if key = other then none else table.find? key :=
  lookup_filter_ne key other table.entries

theorem find?_insert (table : Table K V) (key other : K) (value : V) :
    (table.insert other value).find? key =
      if key = other then some value else table.find? key := by
  show lookup key ((table.erase other).entries ++ [(other, value)]) = _
  rw [lookup_append]
  have erased := find?_erase table key other
  unfold find? at erased
  rw [erased]
  by_cases h : key = other
  next => simp [h, lookup]
  next =>
    have : other ≠ key := fun e => h e.symm
    simp [h, lookup, this, find?]

end Table

end PythonAssist
