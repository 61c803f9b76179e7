import PythonAssist.Engine.Interface

set_option autoImplicit false

namespace PythonAssist

variable {W A : Type}

inductive Engine.Asks (engine : Engine W) (script : ScriptId) : W → W → Prop
  | syntaxErrors (world : W) : Asks engine script world (engine.syntaxErrors script world).2
  | complete (place : Place) (world : W) :
      Asks engine script world (engine.complete script place world).2
  | help (place : Place) (world : W) : Asks engine script world (engine.help script place world).2
  | infer (place : Place) (world : W) : Asks engine script world (engine.infer script place world).2
  | signatures (place : Place) (world : W) :
      Asks engine script world (engine.signatures script place world).2
  | goto (place : Place) (world : W) : Asks engine script world (engine.goto script place world).2
  | references (place : Place) (world : W) :
      Asks engine script world (engine.references script place world).2
  | names (all : Bool) (world : W) : Asks engine script world (engine.names script all world).2
  | inlineAt (place : Place) (world : W) :
      Asks engine script world (engine.inlineAt script place world).2

inductive Engine.Consults (engine : Engine W) : W → W → Prop
  | unusedNames (text : String) (path : Option Path) (world : W) :
      Consults engine world (engine.unusedNames text path world).2
  | styleCheck (path : Option Path) (lines : List String) (options : StyleOptions) (world : W) :
      Consults engine world (engine.styleCheck path lines options world).2

structure Engine.Remembers (engine : Engine W) (opened : W → ScriptId → String → Prop) :
    Prop where
  opens : ∀ text path world script after,
    engine.openScript text path world = (.ok script, after) → opened after script text
  keepsOpening : ∀ text path world script known,
    opened world script known → opened (engine.openScript text path world).2 script known
  keepsReleasing : ∀ released world script known,
    opened world script known → opened (engine.release released world) script known
  keepsAsking : ∀ asked world after script known,
    engine.Asks asked world after → opened world script known → opened after script known
  keepsConsulting : ∀ world after script known,
    engine.Consults world after → opened world script known → opened after script known

inductive ScriptCall where
  | opened (script : ScriptId)
  | asked (script : ScriptId)
  | released (script : ScriptId)
  deriving DecidableEq, Repr

-- The world of an engine with a record of its sessions. Every session that is opened counts as a
-- new one, under the next number: what the engine calls it, and the text it was opened with.
structure Ledger (W : Type) where
  world : W
  sessions : List (ScriptId × String)
  calls : List ScriptCall

namespace Ledger

def sessionOf (ledger : Ledger W) (script : ScriptId) : ScriptId :=
  (ledger.sessions[script]?.map Prod.fst).getD 0

def textOf? (ledger : Ledger W) (script : ScriptId) : Option String :=
  ledger.sessions[script]?.map Prod.snd

def openScript (engine : Engine W) (text : String) (path : Option Path) :
    Answered (Ledger W) ScriptId :=
  fun ledger =>
    match engine.openScript text path ledger.world with
    | (.ok session, world) =>
      (.ok ledger.sessions.length,
        { world
          sessions := ledger.sessions ++ [(session, text)]
          calls := ledger.calls ++ [.opened ledger.sessions.length] })
    | (.error cause, world) => (.error cause, { ledger with world })

def release (engine : Engine W) (script : ScriptId) (ledger : Ledger W) : Ledger W :=
  { ledger with
    world := engine.release (ledger.sessionOf script) ledger.world
    calls := ledger.calls ++ [.released script] }

def ask (script : ScriptId) (question : ScriptId → Answered W A) : Answered (Ledger W) A :=
  fun ledger =>
    let (result, world) := question (ledger.sessionOf script) ledger.world
    (result, { ledger with world, calls := ledger.calls ++ [.asked script] })

def consult (question : Answered W A) : Answered (Ledger W) A := fun ledger =>
  let (result, world) := question ledger.world
  (result, { ledger with world })

end Ledger

def Engine.recorded (engine : Engine W) : Engine (Ledger W) :=
  { openScript := Ledger.openScript engine
    release := Ledger.release engine
    syntaxErrors := fun script => Ledger.ask script engine.syntaxErrors
    complete := fun script place => Ledger.ask script fun session => engine.complete session place
    help := fun script place => Ledger.ask script fun session => engine.help session place
    infer := fun script place => Ledger.ask script fun session => engine.infer session place
    signatures := fun script place =>
      Ledger.ask script fun session => engine.signatures session place
    goto := fun script place => Ledger.ask script fun session => engine.goto session place
    references := fun script place =>
      Ledger.ask script fun session => engine.references session place
    names := fun script all => Ledger.ask script fun session => engine.names session all
    inlineAt := fun script place => Ledger.ask script fun session => engine.inlineAt session place
    unusedNames := fun text path => Ledger.consult (engine.unusedNames text path)
    styleCheck := fun path lines options => Ledger.consult (engine.styleCheck path lines options) }

def Launcher.recorded (launcher : Launcher W) : Launcher (Ledger W) :=
  { launch := fun venv root ledger =>
      let (result, world) := launcher.launch venv root ledger.world
      (result, { ledger with world })
    engine := launcher.engine.recorded }

section Record

variable {engine : Engine W}

theorem asks_recorded {script : ScriptId} {ledger after : Ledger W}
    (asks : engine.recorded.Asks script ledger after) :
    after.sessions = ledger.sessions ∧ after.calls = ledger.calls ++ [.asked script] := by
  cases asks <;> exact ⟨rfl, rfl⟩

theorem consults_recorded {ledger after : Ledger W}
    (consults : engine.recorded.Consults ledger after) :
    after.sessions = ledger.sessions ∧ after.calls = ledger.calls := by
  cases consults <;> exact ⟨rfl, rfl⟩

theorem open_recorded (engine : Engine W) (text : String) (path : Option Path) (ledger : Ledger W) :
    let opening := engine.recorded.openScript text path ledger
    (∃ cause, opening.1 = .error cause ∧ opening.2.sessions = ledger.sessions ∧
        opening.2.calls = ledger.calls) ∨
      ∃ session, opening.1 = .ok ledger.sessions.length ∧
        opening.2.sessions = ledger.sessions ++ [(session, text)] ∧
        opening.2.calls = ledger.calls ++ [.opened ledger.sessions.length] := by
  intro opening
  have opens : opening = Ledger.openScript engine text path ledger := rfl
  rw [opens, Ledger.openScript]
  rcases engine.openScript text path ledger.world with ⟨cause | session, world⟩
  · exact .inl ⟨cause, rfl, rfl, rfl⟩
  · exact .inr ⟨session, rfl, rfl, rfl⟩

theorem textOf?_append {ledger after : Ledger W} {more : List (ScriptId × String)}
    (sessions : after.sessions = ledger.sessions ++ more) {script : ScriptId} {text : String}
    (known : ledger.textOf? script = some text) : after.textOf? script = some text := by
  obtain ⟨entry, found, rfl⟩ := Option.map_eq_some_iff.mp known
  have inside := (List.getElem?_eq_some_iff.mp found).1
  rw [Ledger.textOf?, sessions, List.getElem?_append_left inside, found]
  rfl

theorem recorded_remembers (engine : Engine W) :
    engine.recorded.Remembers fun ledger script text => ledger.textOf? script = some text := by
  refine ⟨?_, ?_, ?_, ?_, ?_⟩
  next =>
    intro text path ledger script after opens
    rcases open_recorded engine text path ledger with
      ⟨cause, failed, -⟩ | ⟨session, opened, sessions, -⟩
    next => simp [opens] at failed
    next =>
      simp only [opens] at opened sessions
      cases opened
      simp [Ledger.textOf?, sessions]
  next =>
    intro text path ledger script known before
    rcases open_recorded engine text path ledger with
      ⟨cause, -, sessions, -⟩ | ⟨session, -, sessions, -⟩
    · exact textOf?_append (sessions.trans (List.append_nil _).symm) before
    · exact textOf?_append sessions before
  next => exact fun released ledger script known before => before
  next =>
    intro asked ledger after script known asks before
    exact textOf?_append ((asks_recorded asks).1.trans (List.append_nil _).symm) before
  next =>
    intro ledger after script known consults before
    exact textOf?_append ((consults_recorded consults).1.trans (List.append_nil _).symm) before

end Record

end PythonAssist
