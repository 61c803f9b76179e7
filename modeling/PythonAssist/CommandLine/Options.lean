import PythonAssist.Text.Split

set_option autoImplicit false

namespace PythonAssist

structure OptionForm where
  name : String
  takesValue : Bool
  repeats : Bool
  deriving DecidableEq, Repr

structure GivenOption where
  name : String
  value : String
  deriving DecidableEq, Repr

inductive CommandLine where
  | options (given : List GivenOption)
  | version
  | help
  | invalid
  deriving DecidableEq, Repr

namespace CommandLine

def invalidCode : Nat := 2

def startsLikeOption (word : String) : Bool :=
  match word.toList with
  | '-' :: _ :: _ => true
  | _ => false

structure OptionForms where
  forms : List OptionForm
  hasVersion : Bool

inductive Word where
  | long (name : String) (value : Option String)
  | short (letter : Char)
  | separator
  | bare
  deriving DecidableEq, Repr

def Word.ofString (word : String) : Word :=
  match word.toList with
  | ['-', '-'] => .separator
  | '-' :: '-' :: rest =>
    match splitFirst '=' rest with
    | some (name, value) => .long (String.ofList name) (some (String.ofList value))
    | none => .long (String.ofList rest) none
  | '-' :: letter :: _ => .short letter
  | _ => .bare

def findForm (forms : OptionForms) (name : String) : Option OptionForm :=
  forms.forms.find? fun form => form.name = name

def isGiven (given : List GivenOption) (name : String) : Bool :=
  given.any fun known => known.name == name

def mayAdd (given : List GivenOption) (form : OptionForm) : Bool :=
  form.repeats || !isGiven given form.name

def readShort (forms : OptionForms) (letter : Char) : CommandLine :=
  if letter = 'h' then .help
  else if letter = 'V' ∧ forms.hasVersion then .version
  else .invalid

def readBuiltIn (forms : OptionForms) (name : String) (value : Option String) : CommandLine :=
  if value.isSome then .invalid
  else if name = "help" then .help
  else if name = "version" ∧ forms.hasVersion then .version
  else .invalid

-- Words are read from left to right, and the first one that settles the matter counts. A value
-- is the next word, unless it looks like an option itself.
def readFrom (forms : OptionForms) : List GivenOption → List String → CommandLine
  | given, [] => .options given
  | given, word :: rest =>
    match Word.ofString word with
    | .separator => if rest.isEmpty then .options given else .invalid
    | .bare => .invalid
    | .short letter => readShort forms letter
    | .long name value =>
      match findForm forms name with
      | none => readBuiltIn forms name value
      | some form =>
        if !mayAdd given form then .invalid
        else
          match form.takesValue, value, rest with
          | false, none, rest => readFrom forms (given ++ [{ name, value := "" }]) rest
          | false, some _, _ => .invalid
          | true, some value, rest => readFrom forms (given ++ [{ name, value }]) rest
          | true, none, next :: rest =>
            if startsLikeOption next then .invalid
            else readFrom forms (given ++ [{ name, value := next }]) rest
          | true, none, [] => .invalid

def read (forms : OptionForms) (arguments : List String) : CommandLine :=
  readFrom forms [] arguments

def value? (given : List GivenOption) (name : String) : Option String :=
  (given.find? fun option => option.name = name).map GivenOption.value

def values (given : List GivenOption) (name : String) : List String :=
  (given.filter fun option => option.name = name).map GivenOption.value

end CommandLine

end PythonAssist
