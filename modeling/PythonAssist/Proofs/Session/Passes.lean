import PythonAssist.Proofs.Session.Staleness

set_option autoImplicit false

namespace PythonAssist

variable {W : Type}

def SyntaxOnly (diagnostics : List Diagnostic) : Prop :=
  diagnostics ≠ [] ∧ ∀ diagnostic ∈ diagnostics, diagnostic.source = .jedi

def Linted (diagnostics : List Diagnostic) : Prop :=
  ∃ flakes styles, diagnostics = flakes ++ styles ∧
    (∀ diagnostic ∈ flakes, diagnostic.source = .pyflakes) ∧
    ∀ diagnostic ∈ styles, diagnostic.source = .pycodestyle

theorem Linted.not_syntaxOnly {diagnostics : List Diagnostic} (linted : Linted diagnostics) :
    ¬ SyntaxOnly diagnostics := by
  rintro ⟨filled, sources⟩
  obtain ⟨flakes, styles, rfl, fromFlakes, fromStyles⟩ := linted
  obtain ⟨diagnostic, member⟩ := List.exists_mem_of_ne_nil _ filled
  have jedi := sources diagnostic member
  rcases List.mem_append.mp member with flake | style
  · cases (fromFlakes diagnostic flake).symm.trans jedi
  · cases (fromStyles diagnostic style).symm.trans jedi

theorem syntaxDiagnostics_syntaxOnly {errors : List SyntaxErrorSpan} (some : errors ≠ []) :
    SyntaxOnly (syntaxDiagnostics errors) := by
  refine ⟨by simpa [syntaxDiagnostics] using some, fun diagnostic member => ?_⟩
  obtain ⟨span, -, rfl⟩ := List.mem_map.mp member
  rfl

theorem lints_linted (reports : List FlakeReport) (findings : List StyleFinding)
    (lines categories : List String) (options : StyleOptions) :
    Linted (flakeDiagnostics reports lines categories ++
      styleDiagnostics findings lines options) := by
  refine ⟨_, _, rfl, fun diagnostic member => ?_, fun diagnostic member => ?_⟩
  · obtain ⟨report, -, rfl⟩ := List.mem_map.mp member
    cases report <;> rfl
  · obtain ⟨finding, -, rfl⟩ := List.mem_map.mp member
    rfl

theorem TypeCheck.finding_source {file : Path} {lines : List String} {line : List Char}
    {diagnostic : Diagnostic} (found : finding file lines line = some diagnostic) :
    diagnostic.source = .mypy := by
  unfold finding at found
  obtain ⟨fields, -, found⟩ := Option.bind_eq_some_iff.mp found
  dsimp only at found
  split at found
  next => cases found
  next =>
    obtain ⟨row, -, found⟩ := Option.bind_eq_some_iff.mp found
    obtain ⟨column, -, found⟩ := Option.bind_eq_some_iff.mp found
    cases found
    rfl

theorem TypeCheck.outcome_source {check : TypeCheck} {run : CheckerRun} :
    ∀ diagnostic ∈ (check.outcome run).1, diagnostic.source = .mypy := by
  intro diagnostic member
  unfold outcome at member
  split at member
  next => cases member
  next =>
    dsimp only at member
    split at member
    next =>
      obtain ⟨line, -, found⟩ := List.mem_filterMap.mp member
      exact finding_source found
    next => cases member

inductive Activity where
  | pass (uri : Uri) (ok : Bool) (begun : List Flight) (notices : List ClientNotice)
  | ended (flight : Flight) (notices : List ClientNotice)
  deriving DecidableEq

namespace Activity

def notices : Activity → List ClientNotice
  | .pass _ _ _ notices => notices
  | .ended _ notices => notices

def IsPassOver (uri : Uri) : Activity → Prop
  | .pass other _ _ _ => other = uri
  | .ended _ _ => False

end Activity

namespace Validation

def Sources : Validation → Prop
  | .syntaxErrors found => SyntaxOnly found
  | .findings found => Linted found

variable {validation : Validation}

theorem Sources.shape (sources : validation.Sources) :
    SyntaxOnly validation.diagnostics ∨ Linted validation.diagnostics := by
  cases validation with
  | syntaxErrors found => exact .inl sources
  | findings found => exact .inr sources

theorem Sources.linted (sources : validation.Sources) (sound : validation.isSound = true) :
    Linted validation.diagnostics := by
  cases validation with
  | syntaxErrors found => cases sound
  | findings found => exact sources

end Validation

structure Inspection where
  environment : Environment
  handle : DocumentHandle
  path : Option Path
  folder : Option Path
  validation : Validation

namespace Session

open Situation (launched)

inductive Publishes (uri : Uri) (session : Session W) : Bool → Session W → Prop
  | failed (after : Session W) : after.notices = session.notices →
      after.checks = session.checks → Publishes uri session false after
  | cancelled (found : List Diagnostic) (version : Int) (after : Session W) :
      SyntaxOnly found ∨ Linted found →
      after.notices = session.notices ++ [.publishDiagnostics uri found version] →
      after.checks = session.checks.cancel uri → Publishes uri session true after
  | began (pending : PendingCheck) (after : Session W) : Linted pending.base →
      after.notices =
        session.notices ++ [.publishDiagnostics uri pending.base pending.version] →
      after.checks = session.checks.start uri pending → Publishes uri session true after

theorem Publishes.of_keeps {uri : Uri} {session middle after : Session W} {ok : Bool}
    (keeps : Keeps session middle) (publishes : Publishes uri middle ok after) :
    Publishes uri session ok after := by
  obtain ⟨-, -, checks, notices⟩ := keeps
  cases publishes with
  | failed _ same kept => exact .failed _ (same.trans notices) (kept.trans checks)
  | cancelled found version _ shape sent kept =>
    exact .cancelled found version _ shape (notices ▸ sent) (checks ▸ kept)
  | began pending _ linted sent kept =>
    exact .began pending _ linted (notices ▸ sent) (checks ▸ kept)

theorem examine_sources (engine : Engine W) (handle : DocumentHandle) (path : Option Path)
    (options : StyleOptions) (session : Session W) :
    Ensures (examine engine handle path options) session fun result _ =>
      ∀ validation, result = .ok validation → validation.Sources := by
  apply (ask_ensures _ session).bind
  next => exact fun e after _ validation same => nomatch same
  rintro errors middle -
  split
  next filled =>
    apply ensures_pure
    rintro validation ⟨⟩
    exact syntaxDiagnostics_syntaxOnly (by simpa using filled)
  apply ensures_get
  apply (ask_ensures _ _).bind
  next => exact fun e after _ validation same => nomatch same
  rintro reports flaked -
  apply (ask_ensures _ _).bind
  next => exact fun e after _ validation same => nomatch same
  rintro findings styled -
  apply ensures_pure
  rintro validation ⟨⟩
  exact lints_linted _ _ _ _ _

section Actions

variable (surroundings : Surroundings W) (host : Host)

def inspect (uri : Uri) : Action W Inspection := do
  let environment ← started
  let engine := surroundings.launcher.engine
  let handle ← handleFor engine uri
  let document ← openDocument uri
  let folder := (← get).workspace.folderPathFor uri
  let options ← styleOptionsFor surroundings.host folder
  let validation ← examine engine handle document.path options
  return { environment, handle, path := document.path, folder, validation }

def announce (found : Inspection) : Action W Unit :=
  publish found.handle found.validation.diagnostics

def renewCheck (uri : Uri) (found : Inspection) : Action W Unit := do
  match found.path, (← get).settings.typeCheck && found.validation.isSound with
  | some file, true =>
    beginCheck host found.environment found.handle file found.folder found.validation.diagnostics
  | _, _ => changeChecks fun checks => checks.cancel uri

theorem validate_eq (uri : Uri) :
    validate surroundings uri = inspect surroundings uri >>= fun found =>
      announce found >>= fun _ => renewCheck surroundings.host uri found := by
  simp only [validate, inspect, bind_assoc, pure_bind]
  rfl

variable {session : Session W} {uri : Uri}

theorem inspect_ensures (uri : Uri) (session : Session W) :
    Ensures (inspect surroundings uri) session fun result after =>
      Moves surroundings.launcher.engine uri session after ∧
        ∀ found, result = .ok found →
          after.handles.find? uri = some found.handle ∧ found.validation.Sources := by
  let engine := surroundings.launcher.engine
  apply (started_ensures session).bind
  next =>
    rintro e after ⟨rfl, -⟩
    exact ⟨.refl _, fun _ same => nomatch same⟩
  rintro environment _ ⟨rfl, -⟩
  apply (handleFor_ensures _).bind
  next => exact fun e after found => ⟨found.1, fun _ same => nomatch same⟩
  rintro handle held ⟨moves, cached⟩
  replace cached := cached handle rfl
  apply (openDocument_ensures held).bind
  next =>
    rintro e after rfl
    exact ⟨moves, fun _ same => nomatch same⟩
  rintro document _ rfl
  apply ensures_get
  apply (styleOptionsFor_ensures _ _ _).bind
  next => exact fun e after derived => ⟨moves.trans derived.1, fun _ same => nomatch same⟩
  intro options derived derives
  have looked := (examine_ensures (derives.2 ▸ cached) document.path options).both
    (examine_sources engine handle document.path options derived)
  apply looked.bind
  next =>
    exact fun e after examines =>
      ⟨(moves.trans derives.1).trans examines.1.1, fun _ same => nomatch same⟩
  rintro validation examined ⟨examines, sources⟩
  apply ensures_pure
  refine ⟨(moves.trans derives.1).trans examines.1, ?_⟩
  rintro found ⟨⟩
  exact ⟨by rw [examines.2, derives.2, cached], sources validation rfl⟩

theorem Coherent.handle_uri (coherent : Coherent session) {handle : DocumentHandle}
    (cached : session.handles.find? uri = some handle) : handle.uri = uri := by
  obtain ⟨_, -, mirrors, -⟩ := coherent uri handle trivial cached
  exact mirrors.uri

inductive Renews (uri : Uri) (found : Inspection) (session : Session W) : Session W → Prop
  | cancelled : Renews uri found session { session with checks := session.checks.cancel uri }
  | began (pending : PendingCheck) (typeConfigs : FolderCache String) :
      found.validation.isSound = true → pending.base = found.validation.diagnostics →
      pending.version = found.handle.version →
      Renews uri found session
        { session with typeConfigs, checks := session.checks.start found.handle.uri pending }

theorem Renews.notices {found : Inspection} {after : Session W}
    (renews : Renews uri found session after) : after.notices = session.notices := by
  cases renews <;> rfl

theorem Renews.keeps {found : Inspection} {after : Session W} (own : found.handle.uri = uri)
    (renews : Renews uri found session after) (coherent : Coherent session) :
    Coherent after ∧ Schedule.Runs session.checks after.checks ∧
      Schedule.Supersedes uri session.checks after.checks := by
  subst own
  cases renews with
  | cancelled =>
    exact ⟨coherent, (Schedule.Step.cancel _ _).runs, Schedule.cancel_supersedes _ _⟩
  | began pending typeConfigs =>
    exact ⟨coherent, (Schedule.Step.start _ _ pending).runs, Schedule.start_supersedes _ _ _⟩

theorem renewCheck_ensures (uri : Uri) (found : Inspection) (session : Session W) :
    Ensures (renewCheck host uri found) session fun result after =>
      result = .ok () ∧ Renews uri found session after := by
  apply ensures_get
  split
  next sound =>
    apply (beginCheck_ensures _ _ _ _ _ _ _).mono
    rintro _ after ⟨rfl, pending, typeConfigs, base, -, version, rfl⟩
    have isSound := (Bool.and_eq_true_iff.mp sound).2
    exact ⟨rfl, .began pending typeConfigs isSound base version⟩
  next => exact ⟨rfl, .cancelled⟩

theorem Renews.publishes {found : Inspection} (own : found.handle.uri = uri)
    (sources : found.validation.Sources) {after : Session W}
    (renews : Renews uri found ((announce found).run session).2 after) :
    Publishes uri session true after := by
  subst own
  cases renews with
  | cancelled => exact .cancelled _ found.handle.version _ sources.shape rfl rfl
  | began pending typeConfigs sound base version =>
    refine .began pending _ (base ▸ sources.linted sound) ?_ rfl
    rw [base, version]
    rfl

theorem validate_publishes (uri : Uri) (coherent : Coherent session) :
    Ensures (validate surroundings uri) session fun result after =>
      Publishes uri session result.isOk after := by
  rw [validate_eq]
  apply (inspect_ensures surroundings uri session).bind
  next =>
    rintro e after ⟨moves, -⟩
    exact .failed after moves.keeps.notices moves.keeps.checks
  rintro found middle ⟨moves, known⟩
  obtain ⟨cached, sources⟩ := known found rfl
  have own := (moves.coherent coherent).handle_uri cached
  apply ensures_modify
  apply (renewCheck_ensures surroundings.host uri found _).mono
  rintro _ after ⟨rfl, renews⟩
  exact (renews.publishes own sources).of_keeps moves.keeps

end Actions

section Passes

variable (surroundings : Surroundings W)

def afterPass (uri : Uri) (session : Session W) : Session W :=
  ((validate surroundings uri).run session).2

def pass (uri : Uri) (session : Session W) : Activity :=
  let after := afterPass surroundings uri session
  .pass uri ((validate surroundings uri).run session).1.isOk
    (launched session.checks.last after.checks)
    (after.notices.drop session.notices.length)

def afterPasses (uris : List Uri) (session : Session W) : Session W :=
  uris.foldl (fun session uri => afterPass surroundings uri session) session

def passes : List Uri → Session W → List Activity
  | [], _ => []
  | uri :: rest, session =>
    pass surroundings uri session :: passes rest (afterPass surroundings uri session)

def prepare (session : Session W) : EditorMessage → Session W × List Uri
  | .query query => (((answer surroundings.launcher.engine query).run session).2, [])
  | .notice (.didOpen item) =>
    (dropHandle surroundings.launcher.engine item.uri
      { session with documents := session.documents.openItem item }, [item.uri])
  | .notice (.didSave uri text) =>
    match session.documents.save uri text with
    | none => (session, [])
    | some documents =>
      let stored := { session with documents }
      (if text.isSome then dropHandle surroundings.launcher.engine uri stored else stored, [uri])
  | .notice (.didChangeConfiguration payload) =>
    match payload.get? Settings.settingsNamespace with
    | some (.object update) =>
      match session.settings.apply update with
      | .error _ => (session, [])
      | .ok (settings, change) =>
        ({ session with settings, revision := session.revision.bump change },
          if change.needsRevalidation then session.documents.uris else [])
    | _ => (session, [])
  | .notice notice => (((receive surroundings notice).run session).2, [])
  | .shutdown => (((shutdown surroundings).run session).2, [])

theorem run_validateEach (uris : List Uri) (session : Session W) :
    (validateEach surroundings uris).run session =
      (.ok (), afterPasses surroundings uris session) := by
  induction uris generalizing session with
  | nil => rfl
  | cons uri rest ih =>
    rw [validateEach, run_bind, run_recovered]
    exact ih _

theorem run_receive (notice : Notice) (session : Session W) :
    ((receive surroundings notice).run session).2 =
      afterPasses surroundings (prepare surroundings session (.notice notice)).2
        (prepare surroundings session (.notice notice)).1 := by
  cases notice with
  | didOpen item => rfl
  | didSave uri text =>
    unfold receive didSave
    rw [run_get]
    cases saved : session.documents.save uri text with
    | none => simp only [prepare, saved]; rfl
    | some documents => cases text <;> (simp only [prepare, saved]; rfl)
  | didChangeConfiguration payload =>
    unfold receive didChangeConfiguration
    dsimp only
    split
    next update found =>
      rw [applySettings, run_get]
      simp only [prepare, found]
      rcases session.settings.apply update with cause | ⟨settings, change⟩
      next => rfl
      next =>
        dsimp only
        rw [run_set]
        split
        next => rw [run_validateEach]
        next => rfl
    next missing =>
      simp only [prepare]
      rfl
  | _ => rfl

theorem deliver_eq (message : EditorMessage) (session : Session W) :
    let prepared := prepare surroundings session message
    let after := afterPasses surroundings prepared.2 prepared.1
    ((handler surroundings).deliver message session).notices = after.notices ∧
      ((handler surroundings).deliver message session).state = { after with notices := [] } := by
  cases message with
  | query query => exact ⟨rfl, rfl⟩
  | notice notice =>
    have left := run_receive surroundings notice session
    exact ⟨congrArg Session.notices left, congrArg (fun s => { s with notices := [] }) left⟩
  | shutdown => exact ⟨rfl, rfl⟩

end Passes

def listed (checks : Schedule PendingCheck) : List Flight :=
  checks.tasks.entries.map fun (uri, task) =>
    { uri, generation := task.generation, pending := task.job }

theorem mem_listed {checks : Schedule PendingCheck} {flight : Flight} :
    flight ∈ listed checks ↔ ∃ task, (flight.uri, task) ∈ checks.tasks.entries ∧
      flight.generation = task.generation ∧ flight.pending = task.job := by
  constructor
  · intro member
    obtain ⟨⟨uri, task⟩, inside, rfl⟩ := List.mem_map.mp member
    exact ⟨task, inside, rfl, rfl⟩
  · obtain ⟨uri, generation, pending⟩ := flight
    rintro ⟨task, inside, rfl, rfl⟩
    exact List.mem_map.mpr ⟨_, inside, rfl⟩

theorem listed_of_subset {before after : Schedule PendingCheck}
    (subset : ∀ entry ∈ after.tasks.entries, entry ∈ before.tasks.entries) :
    ∀ flight ∈ listed after, flight ∈ listed before := by
  intro flight member
  obtain ⟨task, inside, same⟩ := mem_listed.mp member
  exact mem_listed.mpr ⟨task, subset _ inside, same⟩

structure Prepares (session prepared : Session W) : Prop where
  coherent : Coherent prepared
  schedule : Schedule.Runs session.checks prepared.checks
  listed : ∀ flight ∈ listed prepared.checks, flight ∈ listed session.checks
  notices : prepared.notices = session.notices

section Prepare

variable {session : Session W}

theorem Prepares.of_unchanged {prepared : Session W} (coherent : Coherent prepared)
    (checks : prepared.checks = session.checks) (notices : prepared.notices = session.notices) :
    Prepares session prepared :=
  ⟨coherent, checks ▸ .refl _, fun _ member => checks ▸ member, notices⟩

theorem Delivers.prepares {engine : Engine W} {message : EditorMessage} {ok : Bool}
    {after : Session W} (delivers : Delivers engine session message ok after)
    (coherent : Coherent session)
    (unlisted : ∀ entry ∈ after.checks.tasks.entries, entry ∈ session.checks.tasks.entries)
    (notices : after.notices = session.notices) : Prepares session after :=
  ⟨delivers.tracks (remembers_nothing engine) coherent, delivers.schedule,
    listed_of_subset unlisted, notices⟩

theorem Delivers.prepares_change {engine : Engine W} {uri : Uri} {version : Int}
    {changes : List ContentChange} {ok : Bool} {after : Session W}
    (delivers : Delivers engine session (.notice (.didChange uri version changes)) ok after)
    (coherent : Coherent session) : Prepares session after := by
  have whole := delivers
  cases delivers with
  | changed _ _ _ _ _ _ _ moves =>
    refine whole.prepares coherent (fun entry member => ?_) moves.keeps.notices
    rw [moves.keeps.checks] at member
    exact (Table.mem_erase.mp member).1
  | notChanged => exact .of_unchanged coherent rfl rfl

theorem prepare_prepares (surroundings : Surroundings W)
    (connected : session.environment.isSome = true) (coherent : Coherent session)
    (message : EditorMessage) : Prepares session (prepare surroundings session message).1 := by
  cases message with
  | query query =>
    have moves : Moves _ _ session _ := answer_ensures surroundings.launcher.engine query session
    exact .of_unchanged (moves.coherent coherent) moves.keeps.checks moves.keeps.notices
  | shutdown =>
    have delivers : Delivers surroundings.launcher.engine session .shutdown true _ := .stopped
    exact delivers.prepares coherent (fun _ => Schedule.mem_cancelAll) rfl
  | notice notice =>
    cases notice with
    | didOpen item =>
      exact .of_unchanged (dropHandle_coherent (coherent.openItem item)) rfl rfl
    | didSave uri text =>
      simp only [prepare]
      split
      next => exact .of_unchanged coherent rfl rfl
      next documents applied =>
        cases text with
        | none =>
          have same : documents = session.documents := by
            unfold DocumentStore.save at applied
            split at applied <;> cases applied
            rfl
          subst same
          exact .of_unchanged coherent rfl rfl
        | some text =>
          exact .of_unchanged (dropHandle_coherent (coherent.saveText applied)) rfl rfl
    | didChangeConfiguration payload =>
      simp only [prepare]
      repeat' split
      all_goals exact .of_unchanged coherent rfl rfl
    | didChange uri version changes =>
      have delivers := receive_ensures surroundings (.didChange uri version changes) session
        connected
      exact Delivers.prepares_change delivers coherent
    | didClose uri =>
      exact Delivers.prepares (Delivers.closed uri) coherent
        (fun _ member => (Table.mem_erase.mp member).1) rfl
    | willSave uri => exact .of_unchanged coherent rfl rfl
    | didChangeFolders change => exact .of_unchanged coherent rfl rfl

end Prepare

end Session

end PythonAssist
