import PythonAssist.Table
import PythonAssist.Path

set_option autoImplicit false

namespace PythonAssist

structure FolderCache (V : Type) where
  entries : Table (Option (List Path.Component)) (Nat × V)

namespace FolderCache

variable {V : Type}

def empty : FolderCache V := { entries := .empty }

instance : Inhabited (FolderCache V) := ⟨empty⟩

def key (folder : Option Path) : Option (List Path.Component) := folder.map Path.components

def find? (cache : FolderCache V) (folder : Option Path) (revision : Nat) : Option V :=
  match cache.entries.find? (key folder) with
  | some (known, value) => if known = revision then some value else none
  | none => none

def insert (cache : FolderCache V) (folder : Option Path) (revision : Nat) (value : V) :
    FolderCache V :=
  { entries := cache.entries.insert (key folder) (revision, value) }

def getOrLoad (cache : FolderCache V) (folder : Option Path) (revision : Nat) (load : Unit → V) :
    V × FolderCache V :=
  match cache.find? folder revision with
  | some value => (value, cache)
  | none =>
    let value := load ()
    (value, cache.insert folder revision value)

end FolderCache

end PythonAssist
