import PythonAssist.CommandLine.Options
import PythonAssist.TextEngine.Serve
import PythonAssist.Worker.Link

set_option autoImplicit false

namespace PythonAssist

namespace TextEngineOptions

def forms : CommandLine.OptionForms :=
  { forms :=
      [{ name := "fail-on", takesValue := true, repeats := true },
        { name := "crash-on-open", takesValue := false, repeats := false }]
    hasVersion := false }

def ofGiven (given : List GivenOption) : TextEngineOptions :=
  { failOn := CommandLine.values given "fail-on"
    crashOnOpen := CommandLine.isGiven given "crash-on-open" }

end TextEngineOptions

namespace TextEngine

def ofArguments (arguments : List String) : TextEngine :=
  match CommandLine.read TextEngineOptions.forms arguments with
  | .options given => start (.ofGiven given)
  | .help => { start ⟨[], false⟩ with ended := some 0 }
  | _ => { start ⟨[], false⟩ with ended := some CommandLine.invalidCode }

def runOn (arguments : List String) (input : Bytes) : List Json × Nat :=
  let engine := ofArguments arguments
  if engine.ended.isSome then ([], engine.ended.getD 0)
  else
    let (responses, engine) := engine.feed input
    (responses, engine.ended.getD 0)

def notFound : String := "No such file or directory (os error 2)"

def program (path : String) : Program TextEngine :=
  { start := fun command =>
      match command with
      | [] => .error notFound
      | name :: arguments => if name = path then .ok (ofArguments arguments) else .error notFound
    feed := fun bytes engine =>
      let (responses, engine) := engine.feed bytes
      (responses.map fun response => Frame.encode (Json.write response), engine)
    hasEnded := fun engine => engine.ended.isSome }

end TextEngine

end PythonAssist
