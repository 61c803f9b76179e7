import PythonAssist.Proofs.Session.Moves
import PythonAssist.Proofs.Session.Run

set_option autoImplicit false

namespace PythonAssist.Session

variable {W A : Type}

inductive Concludes (uri : Uri) (session : Session W) : Session W → Prop
  | cancelled (handle : DocumentHandle) (diagnostics : List Diagnostic) :
      session.handles.find? uri = some handle →
      Concludes uri session
        { session with
          notices :=
            session.notices ++ [.publishDiagnostics handle.uri diagnostics handle.version]
          checks := session.checks.cancel uri }
  | began (handle : DocumentHandle) (pending : PendingCheck) (typeConfigs : FolderCache String) :
      session.handles.find? uri = some handle →
      pending.check.lines = handle.lines → pending.version = handle.version →
      Concludes uri session
        { session with
          typeConfigs
          notices :=
            session.notices ++ [.publishDiagnostics handle.uri pending.base handle.version]
          checks := session.checks.start handle.uri pending }

inductive Validates (engine : Engine W) (uri : Uri) (session : Session W) :
    Bool → Session W → Prop
  | failed (after : Session W) : Moves engine uri session after →
      Validates engine uri session false after
  | concluded (middle after : Session W) : Moves engine uri session middle →
      Concludes uri middle after → Validates engine uri session true after

inductive ValidatesEach (engine : Engine W) : List Uri → Session W → Session W → Prop
  | done (session : Session W) : ValidatesEach engine [] session session
  | next (uri : Uri) (rest : List Uri) (ok : Bool) (session middle after : Session W) :
      Validates engine uri session ok middle → ValidatesEach engine rest middle after →
      ValidatesEach engine (uri :: rest) session after

section Passes

variable {engine : Engine W} {uri : Uri}

def Examines (engine : Engine W) (uri : Uri) (session after : Session W) : Prop :=
  Moves engine uri session after ∧ after.handles = session.handles

theorem Examines.trans {session middle after : Session W}
    (first : Examines engine uri session middle) (second : Examines engine uri middle after) :
    Examines engine uri session after :=
  ⟨first.1.trans second.1, second.2.trans first.2⟩

theorem Move.examines {session after : Session W} (move : Move engine uri session after)
    (same : after.handles = session.handles) : Examines engine uri session after :=
  ⟨move.moves, same⟩

theorem examine_ensures {session : Session W} {handle : DocumentHandle}
    (cached : session.handles.find? uri = some handle) (path : Option Path)
    (options : StyleOptions) :
    Ensures (examine engine handle path options) session fun _ after =>
      Examines engine uri session after := by
  have errors : Examines engine uri session _ :=
    (Move.asked session handle _ cached (.syntaxErrors session.world)).examines rfl
  apply (ask_ensures _ session).bind
  next => exact fun e after found => found.2 ▸ errors
  rintro spans after ⟨-, rfl⟩
  split
  next => exact ensures_pure errors
  apply ensures_get
  have unused (current : Session W) : Examines engine uri current _ :=
    (Move.consulted current _ (.unusedNames handle.text path current.world)).examines rfl
  have style (current : Session W) : Examines engine uri current _ :=
    (Move.consulted current _
      (.styleCheck path handle.sourceLines options current.world)).examines rfl
  apply (ask_ensures _ _).bind
  next => exact fun e after found => found.2 ▸ errors.trans (unused _)
  rintro reports after ⟨-, rfl⟩
  apply (ask_ensures _ _).bind
  next => exact fun e after found => found.2 ▸ (errors.trans (unused _)).trans (style _)
  rintro findings after ⟨-, rfl⟩
  exact ensures_pure ((errors.trans (unused _)).trans (style _))

theorem openDocument_ensures (session : Session W) :
    Ensures (openDocument uri) session fun _ after => after = session := by
  apply ensures_get
  split
  · exact ensures_pure rfl
  · exact ensures_fail rfl

theorem styleOptionsFor_ensures (host : Host) (folder : Option Path) (session : Session W) :
    Ensures (styleOptionsFor host folder) session fun _ after =>
      Examines engine uri session after :=
  ensures_get (ensures_set (ensures_pure
    ((Move.derived session _ session.typeConfigs).examines rfl)))

theorem beginCheck_ensures (host : Host) (environment : Environment) (handle : DocumentHandle)
    (file : Path) (folder : Option Path) (base : List Diagnostic) (session : Session W) :
    Ensures (beginCheck host environment handle file folder base) session fun result after =>
      result = .ok () ∧ ∃ pending typeConfigs, pending.base = base ∧
        pending.check.lines = handle.lines ∧ pending.version = handle.version ∧
        after =
          { session with typeConfigs, checks := session.checks.start handle.uri pending } := by
  have config : Ensures (typeConfigFor host folder) session fun result after =>
      (∃ config, result = .ok config) ∧
        ∃ typeConfigs, after = { session with typeConfigs } :=
    ensures_get (ensures_set (ensures_pure ⟨⟨_, rfl⟩, _, rfl⟩))
  apply config.bind
  next =>
    rintro e after ⟨⟨config, absurd⟩, -⟩
    cases absurd
  rintro config after ⟨-, typeConfigs, rfl⟩
  apply ensures_get
  exact ⟨rfl, _, typeConfigs, rfl, rfl, rfl, rfl⟩

theorem conclude_ensures {environment : Environment} {handle : DocumentHandle}
    {session : Session W} (cached : session.handles.find? uri = some handle) (host : Host)
    (path : Option Path) (folder : Option Path) (validation : Validation) :
    Ensures (do
      publish handle validation.diagnostics
      match path, (← get).settings.typeCheck && validation.isSound with
      | some file, true =>
        beginCheck host environment handle file folder validation.diagnostics
      | _, _ => changeChecks fun checks => checks.cancel uri) session fun result after =>
        result = .ok () ∧ Concludes uri session after := by
  apply ensures_modify
  apply ensures_get
  split
  next =>
    apply (beginCheck_ensures _ _ _ _ _ _ _).mono
    rintro _ after ⟨rfl, pending, typeConfigs, base, lines, version, rfl⟩
    rw [← base]
    exact ⟨rfl, .began handle pending typeConfigs cached lines version⟩
  next => exact ⟨rfl, .cancelled handle validation.diagnostics cached⟩

theorem validate_ensures (surroundings : Surroundings W) (uri : Uri) (session : Session W) :
    Ensures (validate surroundings uri) session fun result after =>
      Validates surroundings.launcher.engine uri session result.isOk after := by
  apply (started_ensures session).bind
  next =>
    rintro e after ⟨rfl, -⟩
    exact .failed _ (.refl _)
  rintro environment _ ⟨rfl, -⟩
  apply (handleFor_ensures _).bind
  next => exact fun e after found => .failed _ found.1
  rintro handle held ⟨moves, cached⟩
  replace cached := cached handle rfl
  apply (openDocument_ensures held).bind
  next =>
    rintro e after rfl
    exact .failed _ moves
  rintro document _ rfl
  apply ensures_get
  apply (styleOptionsFor_ensures _ _ _).bind
  next => exact fun e after derived => .failed _ (moves.trans derived.1)
  intro options derived derives
  apply (examine_ensures (derives.2 ▸ cached) _ _).bind
  next => exact fun e after examines => .failed _ ((moves.trans derives.1).trans examines.1)
  intro validation examined examines
  have kept : examined.handles.find? uri = some handle := by
    rw [examines.2, derives.2, cached]
  apply (conclude_ensures kept _ _ _ _).mono
  rintro _ after ⟨rfl, concludes⟩
  exact .concluded _ _ ((moves.trans derives.1).trans examines.1) concludes

end Passes

inductive Delivers (engine : Engine W) (session : Session W) :
    EditorMessage → Bool → Session W → Prop
  | answered (query : Query) (ok : Bool) (after : Session W) :
      Moves engine query.uri session after → Delivers engine session (.query query) ok after
  | opened (item : DocumentItem) (ok : Bool) (after : Session W) :
      Validates engine item.uri
        (dropHandle engine item.uri
          { session with documents := session.documents.openItem item }) ok after →
      Delivers engine session (.notice (.didOpen item)) ok after
  | changed (uri : Uri) (version : Int) (changes : List ContentChange)
      (documents : DocumentStore) (ok : Bool) (after : Session W) :
      session.documents.change uri version changes = some documents →
      Moves engine uri
        (dropHandle engine uri
          { session with documents, checks := session.checks.cancel uri }) after →
      Delivers engine session (.notice (.didChange uri version changes)) ok after
  | notChanged (uri : Uri) (version : Int) (changes : List ContentChange) :
      session.documents.change uri version changes = none →
      Delivers engine session (.notice (.didChange uri version changes)) false session
  | closed (uri : Uri) :
      Delivers engine session (.notice (.didClose uri)) true
        { dropHandle engine uri { session with documents := session.documents.close uri } with
          checks := session.checks.forget uri }
  | waitedForSave (uri : Uri) : Delivers engine session (.notice (.willSave uri)) true session
  | saved (uri : Uri) (ok : Bool) (after : Session W) :
      (session.documents.find? uri).isSome = true → Validates engine uri session ok after →
      Delivers engine session (.notice (.didSave uri none)) ok after
  | savedText (uri : Uri) (text : String) (documents : DocumentStore) (ok : Bool)
      (after : Session W) :
      session.documents.save uri (some text) = some documents →
      Validates engine uri (dropHandle engine uri { session with documents }) ok after →
      Delivers engine session (.notice (.didSave uri (some text))) ok after
  | notSaved (uri : Uri) (text : Option String) :
      session.documents.find? uri = none →
      Delivers engine session (.notice (.didSave uri text)) false session
  | notConfigured (payload : Json) (ok : Bool) :
      Delivers engine session (.notice (.didChangeConfiguration payload)) ok session
  | configured (payload : Json) (settings : Settings) (revision : SettingsRevision)
      (uris : List Uri) (after : Session W) :
      uris = [] ∨ uris = session.documents.uris →
      ValidatesEach engine uris { session with settings, revision } after →
      Delivers engine session (.notice (.didChangeConfiguration payload)) true after
  | moved (change : FoldersChange) (workspace : Workspace) :
      Delivers engine session (.notice (.didChangeFolders change)) true
        { session with workspace }
  | stopped :
      Delivers engine session .shutdown true
        { session with
          checks := session.checks.cancelAll
          handles := (session.handles.clear engine session.world).1
          world := (session.handles.clear engine session.world).2 }

section Messages

variable (surroundings : Surroundings W)

theorem validateEach_ensures (uris : List Uri) (session : Session W) :
    Ensures (validateEach surroundings uris) session fun result after =>
      result = .ok () ∧ ValidatesEach surroundings.launcher.engine uris session after := by
  induction uris generalizing session with
  | nil => exact ensures_pure ⟨rfl, .done session⟩
  | cons uri rest ih =>
    apply (ensures_recovered (validate_ensures surroundings uri session)).bind
    next =>
      rintro e after ⟨absurd, -⟩
      cases absurd
    rintro _ middle ⟨-, attempted, validates⟩
    apply (ih middle).mono
    rintro _ after ⟨rfl, others⟩
    exact ⟨rfl, .next uri rest _ session middle after validates others⟩

theorem answer_ensures (engine : Engine W) (query : Query) (session : Session W) :
    Ensures (answer engine query) session fun _ after => Moves engine query.uri session after := by
  cases query with
  | completion place => exact completion_ensures place session
  | hover place => exact hover_ensures place session
  | signatureHelp place => exact signatureHelp_ensures place session
  | definition place => exact definition_ensures place session
  | references place => exact references_ensures place session
  | documentSymbol uri => exact documentSymbol_ensures uri session
  | codeAction uri range => exact codeAction_ensures uri range session

theorem evict_ensures {engine : Engine W} {uri : Uri} {session : Session W}
    {next : PUnit → Action W A} {post : Except SessionError A → Session W → Prop}
    (rest : Ensures (next ()) (dropHandle engine uri session) post) :
    Ensures (evict engine uri >>= next) session post := rest

theorem receive_ensures (notice : Notice) (session : Session W)
    (connected : session.environment.isSome = true) :
    Ensures (receive surroundings notice) session fun result after =>
      Delivers surroundings.launcher.engine session (.notice notice) result.isOk after := by
  cases notice with
  | didOpen item =>
    apply ensures_modify
    apply evict_ensures
    exact (validate_ensures _ _ _).mono fun _ _ validates => .opened item _ _ validates
  | didChange uri version changes =>
    apply ensures_get
    cases changed : session.documents.change uri version changes with
    | none => exact .notChanged uri version changes changed
    | some documents =>
      apply ensures_modify
      apply ensures_modify
      apply (rebuildHandle_ensures
        { session with documents, checks := session.checks.cancel uri } connected).bind
      · exact fun e after moves => .changed uri version changes documents _ _ changed moves
      · exact fun _ after moves => .changed uri version changes documents _ _ changed moves
  | didClose uri => exact .closed uri
  | willSave uri => exact .waitedForSave uri
  | didSave uri text =>
    apply ensures_get
    cases saved : session.documents.save uri text with
    | none =>
      have missing : session.documents.find? uri = none := by
        unfold DocumentStore.save at saved
        split at saved
        next missing => exact missing
        next => split at saved <;> cases saved
      exact .notSaved uri text missing
    | some documents =>
      apply ensures_modify
      cases text with
      | none =>
        unfold DocumentStore.save at saved
        split at saved
        next => cases saved
        next document found =>
          cases saved
          exact (validate_ensures _ _ _).mono fun _ _ validates =>
            .saved uri _ _ (by simp [found]) validates
      | some text =>
        apply evict_ensures
        exact (validate_ensures _ _ _).mono fun _ _ validates =>
          .savedText uri text documents _ _ saved validates
  | didChangeConfiguration payload =>
    unfold receive didChangeConfiguration
    dsimp only
    split
    next update _ =>
      apply ensures_get
      split
      next => exact .notConfigured payload false
      next settings change _ =>
        apply ensures_set
        split
        next =>
          apply (validateEach_ensures _ _ _).mono
          rintro _ after ⟨rfl, validates⟩
          exact .configured payload _ _ _ after (.inr rfl) validates
        next => exact .configured payload _ _ [] _ (.inl rfl) (.done _)
    next => exact .notConfigured payload true
  | didChangeFolders change => exact .moved change _

theorem perform_ensures {action : Action W A} {session : Session W}
    {post : Except SessionError A → Session W → Prop} (ensured : Ensures action session post) :
    ∃ result after, post result after ∧
      perform action session =
        { result := result.mapError SessionError.message
          notices := after.notices
          state := { after with notices := [] } } :=
  ⟨_, _, ensured, rfl⟩

theorem isOk_mapError {E F : Type} (f : E → F) (result : Except E A) :
    (result.mapError f).isOk = result.isOk := by
  cases result <;> rfl

theorem deliver_delivers (message : EditorMessage) (session : Session W)
    (connected : session.environment.isSome = true) :
    let outcome := (handler surroundings).deliver message session
    ∃ after, Delivers surroundings.launcher.engine session message outcome.result.isOk after ∧
      outcome.notices = after.notices ∧ outcome.state = { after with notices := [] } := by
  cases message with
  | query query =>
    obtain ⟨result, after, moves, performed⟩ := perform_ensures
      (answer_ensures surroundings.launcher.engine query session)
    simp only [Handler.deliver, handler, performed, Outcome.discard]
    exact ⟨after, .answered query _ after moves, rfl, rfl⟩
  | notice notice =>
    obtain ⟨result, after, delivers, performed⟩ := perform_ensures
      (receive_ensures surroundings notice session connected)
    simp only [Handler.deliver, handler, performed, isOk_mapError]
    exact ⟨after, delivers, rfl, rfl⟩
  | shutdown => exact ⟨_, .stopped, rfl, rfl⟩

end Messages

structure Keeps (session after : Session W) : Prop where
  environment : after.environment = session.environment
  documents : after.documents = session.documents
  checks : after.checks = session.checks
  notices : after.notices = session.notices

section Frames

variable {engine : Engine W} {uri : Uri} {session after : Session W}

theorem Move.keeps (move : Move engine uri session after) : Keeps session after := by
  cases move <;> exact ⟨rfl, rfl, rfl, rfl⟩

theorem Moves.keeps (moves : Moves engine uri session after) : Keeps session after := by
  induction moves with
  | refl => exact ⟨rfl, rfl, rfl, rfl⟩
  | tail _ move ih =>
    have last := move.keeps
    exact ⟨last.environment.trans ih.environment, last.documents.trans ih.documents,
      last.checks.trans ih.checks, last.notices.trans ih.notices⟩

theorem Concludes.keeps (concludes : Concludes uri session after) :
    after.environment = session.environment ∧ after.documents = session.documents := by
  cases concludes <;> exact ⟨rfl, rfl⟩

theorem Validates.keeps {ok : Bool} (validates : Validates engine uri session ok after) :
    after.environment = session.environment ∧ after.documents = session.documents := by
  cases validates with
  | failed _ moves => exact ⟨moves.keeps.environment, moves.keeps.documents⟩
  | concluded middle _ moves concludes =>
    exact ⟨concludes.keeps.1.trans moves.keeps.environment,
      concludes.keeps.2.trans moves.keeps.documents⟩

theorem ValidatesEach.keeps {uris : List Uri}
    (validates : ValidatesEach engine uris session after) :
    after.environment = session.environment ∧ after.documents = session.documents := by
  induction validates with
  | done => exact ⟨rfl, rfl⟩
  | next _ _ _ _ _ _ first _ ih => exact ⟨ih.1.trans first.keeps.1, ih.2.trans first.keeps.2⟩

theorem Delivers.environment {message : EditorMessage} {ok : Bool}
    (delivers : Delivers engine session message ok after) :
    after.environment = session.environment := by
  cases delivers with
  | answered _ _ _ moves => exact moves.keeps.environment
  | opened _ _ _ validates => exact validates.keeps.1
  | changed _ _ _ _ _ _ _ moves => exact moves.keeps.environment
  | saved _ _ _ _ validates => exact validates.keeps.1
  | savedText _ _ _ _ _ _ validates => exact validates.keeps.1
  | configured _ _ _ _ _ _ validates => exact validates.keeps.1
  | _ => rfl

end Frames

section Connection

variable {launcher : Launcher W}

theorem connect_ensures (surroundings : Surroundings W) (params : InitializeParams)
    (session : Session W) :
    Ensures (connect surroundings params) session fun result after =>
      after.documents = session.documents ∧ after.handles = session.handles ∧
        after.checks = session.checks ∧ after.notices = session.notices ∧
        (result.isOk = true → after.environment.isSome = true) := by
  apply ensures_modify
  apply ensures_get
  split
  next result world _ =>
    apply ensures_set
    cases result with
    | error reason =>
      exact ensures_fail ⟨rfl, rfl, rfl, rfl, by simp [Except.isOk, Except.toBool]⟩
    | ok environment => exact ⟨rfl, rfl, rfl, rfl, fun _ => rfl⟩

structure Blank (session : Session W) : Prop where
  documents : session.documents = .empty
  handles : session.handles = .empty
  checks : session.checks = .empty
  notices : session.notices = []

theorem Blank.connect {session : Session W} (blank : Blank session)
    (surroundings : Surroundings W) (params : InitializeParams) :
    let outcome := (handler surroundings).connect params session
    Blank outcome.state ∧
      (outcome.result.isOk = true → outcome.state.environment.isSome = true) := by
  obtain ⟨result, after, ⟨documents, handles, checks, notices, connected⟩, performed⟩ :=
    perform_ensures (connect_ensures surroundings params session)
  simp only [handler, performed, isOk_mapError]
  exact ⟨⟨documents.trans blank.documents, handles.trans blank.handles,
    checks.trans blank.checks, rfl⟩, connected⟩

theorem Waiting.blank {session : Session W} (waiting : Waiting launcher session) :
    Blank session := by
  induction waiting with
  | created => exact ⟨rfl, rfl, rfl, rfl⟩
  | refused host params session reason _ _ ih => exact (ih.connect { launcher, host } params).1

end Connection

structure Settled (session : Session W) : Prop where
  connected : session.environment.isSome = true
  notices : session.notices = []

-- What a blank session has, what messages keep, and what the end of a type check keeps, holds
-- between the events of every run.
theorem reachable_invariant {launcher : Launcher W} (invariant : Session W → Prop)
    (initially : ∀ session, Blank session → invariant session)
    (delivered : ∀ session message ok after, Settled session → invariant session →
      Delivers launcher.engine session message ok after → invariant { after with notices := [] })
    (ended : ∀ session uri generation pending run, invariant session →
      invariant { endCheck session uri generation pending run with notices := [] })
    {situation : Situation W} (reachable : Reachable launcher situation) :
    Settled situation.session ∧ invariant situation.session := by
  induction reachable with
  | connected host params session answer waiting connected =>
    have blank := waiting.blank.connect { launcher, host } params
    refine ⟨⟨blank.2 ?_, blank.1.notices⟩, initially _ blank.1⟩
    rw [connected]
    rfl
  | advanced situation event _ ih =>
    cases event with
    | message host message =>
      obtain ⟨after, delivers, -, state⟩ :=
        deliver_delivers { launcher, host } message situation.session ih.1.connected
      simp only [Situation.advance, state]
      refine ⟨⟨?_, rfl⟩, delivered _ _ _ _ ih.1 ih.2 delivers⟩
      rw [delivers.environment]
      exact ih.1.connected
    | ended flight run =>
      unfold Situation.advance
      dsimp only
      split
      · exact ⟨⟨ih.1.connected, rfl⟩, ended _ _ _ _ _ ih.2⟩
      · exact ih

end PythonAssist.Session
