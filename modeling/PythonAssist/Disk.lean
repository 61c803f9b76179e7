import PythonAssist.Path

set_option autoImplicit false

namespace PythonAssist

structure Disk where
  read : Path → Option Bytes
  isThere : Path → Bool

namespace Disk

def isFile (disk : Disk) (path : Path) : Bool := (disk.read path).isSome

def settle : List Path.Component → List Path.Component → List Path.Component
  | done, [] => done.reverse
  | .named _ :: done, .parent :: rest => settle done rest
  | done, step :: rest => settle (step :: done) rest

def place (path : Path) : List Path.Component := settle [] path.components

def find (files : List (Path × Bytes)) (path : Path) : Option Bytes :=
  (files.find? fun file => place file.1 == place path).map Prod.snd

def ofFiles (files : List (Path × Bytes)) : Disk :=
  { read := fun path => if path.bytes.getLast? = some Path.slash then none else find files path
    isThere := fun path =>
      !path.bytes.isEmpty && files.any fun file => (place path).isPrefixOf (place file.1) }

end Disk

end PythonAssist
