import PythonAssist.Engine.Canned
import PythonAssist.Proofs.Session.Handles
import PythonAssist.Proofs.Lint.StyleFiles
import PythonAssist.Proofs.Session.Lifetime
import PythonAssist.Proofs.Session.Uncached
import PythonAssist.Proofs.Session.Unconcerned

set_option autoImplicit false

namespace PythonAssist

variable {W A B : Type}

namespace FolderCache

variable {V : Type}

def FreshAt (cache : FolderCache V) (revision : Nat) (current : Option Path → V) : Prop :=
  ∀ folder known value, cache.entries.find? (key folder) = some (known, value) →
    known ≤ revision ∧ (known = revision → value = current folder)

theorem FreshAt.empty (revision : Nat) (current : Option Path → V) :
    (empty : FolderCache V).FreshAt revision current := by
  intro folder known value cached
  cases cached

theorem FreshAt.next {cache : FolderCache V} {revision : Nat} {current : Option Path → V}
    (fresh : cache.FreshAt revision current) (later : Option Path → V) :
    cache.FreshAt (revision + 1) later := by
  intro folder known value cached
  have past := (fresh folder known value cached).1
  exact ⟨by omega, fun same => by omega⟩

theorem getOrLoad_fresh {cache : FolderCache V} {revision : Nat} {current : Option Path → V}
    (fresh : cache.FreshAt revision current)
    (shared : ∀ folder other, key folder = key other → current folder = current other)
    (folder : Option Path) (load : Unit → V) (loads : load () = current folder) :
    (cache.getOrLoad folder revision load).1 = load () ∧
      (cache.getOrLoad folder revision load).2.FreshAt revision current := by
  unfold getOrLoad
  cases found : cache.find? folder revision with
  | some value =>
    refine ⟨?_, fresh⟩
    rw [loads]
    unfold find? at found
    split at found
    next known cached held =>
      split at found
      next now =>
        cases found
        exact (fresh folder known _ held).2 now
      next => cases found
    next => cases found
  | none =>
    refine ⟨rfl, fun other known value cached => ?_⟩
    simp only [insert, Table.find?_insert] at cached
    split at cached
    next spelled =>
      cases cached
      exact ⟨Nat.le_refl _, fun _ => loads.trans (shared folder other spelled.symm)⟩
    next => exact fresh other known value cached

end FolderCache

theorem Settings.apply_styleConfig {settings changed : Settings} {change : SettingsChange}
    {update : List (String × Json)} (applied : settings.apply update = .ok (changed, change))
    (untouched : change.styleConfig = false) : changed.styleConfig = settings.styleConfig := by
  unfold apply at applied
  cases flakes : key "pyflakes_errors" (Json.decodeList Json.decodeString) update <;>
    cases style : key "pycodestyle_config" (Json.decodeOption Path.decode) update <;>
    cases hover : key "help_on_hover" Json.decodeBool update <;>
    cases types : key "mypy_enabled" Json.decodeBool update <;>
    simp only [flakes, style, hover, types, bind, Except.bind, pure, Except.pure] at applied
  all_goals cases applied
  next flakes style hover types =>
    rw [Option.isSome_eq_false_iff, Option.isNone_iff_eq_none] at untouched
    rw [untouched]
    rfl

namespace Session

def StylesFresh (disk : Disk) (session : Session W) : Prop :=
  session.styleOptions.FreshAt session.revision.style fun folder =>
    StyleOptions.load disk folder session.settings.styleConfig

def SameStyleFiles (disk : Disk) (host : Host) (session : Session W) : Prop :=
  ∀ uri, ∀ path ∈ StyleOptions.files (session.workspace.folderPathFor uri)
      session.settings.styleConfig,
    host.disk.read path = disk.read path

section Freshness

variable {disk : Disk} {host : Host} {session after : Session W}

theorem StylesFresh.frame (fresh : StylesFresh disk session)
    (options : after.styleOptions = session.styleOptions)
    (revision : after.revision = session.revision) (settings : after.settings = session.settings) :
    StylesFresh disk after := by
  unfold StylesFresh
  rw [options, revision, settings]
  exact fresh

theorem SameStyleFiles.frame (same : SameStyleFiles disk host session)
    (styling : SameStyling session after) : SameStyleFiles disk host after := by
  unfold SameStyleFiles
  rw [styling.settings, styling.workspace]
  exact same

theorem StylesFresh.configure {settings : Settings} {change : SettingsChange}
    {update : List (String × Json)} (fresh : StylesFresh disk session)
    (applied : session.settings.apply update = .ok (settings, change)) :
    StylesFresh disk { session with settings, revision := session.revision.bump change } := by
  unfold StylesFresh SettingsRevision.bump
  cases touched : change.styleConfig with
  | true => exact fresh.next _
  | false =>
    simp only [Settings.apply_styleConfig applied touched]
    exact fresh

theorem styleOptionsFor_loads (spelling : disk.IgnoresSpelling) (fresh : StylesFresh disk session)
    (folder : Option Path)
    (same : ∀ path ∈ StyleOptions.files folder session.settings.styleConfig,
      host.disk.read path = disk.read path) :
    Ensures (styleOptionsFor host folder) session fun result after =>
      result = .ok (StyleOptions.load host.disk folder session.settings.styleConfig) ∧
        ∃ styleOptions, after = { session with styleOptions } ∧ StylesFresh disk after := by
  obtain ⟨value, kept⟩ := FolderCache.getOrLoad_fresh fresh
    (fun _ _ shared => StyleOptions.load_key spelling shared _) folder
    (fun _ => StyleOptions.load host.disk folder session.settings.styleConfig)
    (StyleOptions.load_congr same)
  exact ensures_get (ensures_set (ensures_pure ⟨congrArg Except.ok value, _, rfl, kept⟩))

end Freshness

def Follows (disk : Disk) (plain cached : Action W A) (session : Session W) : Prop :=
  Ensures cached session fun result after =>
    plain.run session.unstyled = (result, after.unstyled) ∧ StylesFresh disk after

section Passes

variable {disk : Disk} {host : Host} {session : Session W}

theorem Unconcerned.follows {action : Action W A} (unconcerned : Unconcerned action)
    (fresh : StylesFresh disk session) : Follows disk action action session :=
  have ⟨styling, options, ran⟩ := unconcerned session
  ⟨ran, fresh.frame options styling.revision styling.settings⟩

theorem Unconcerned.follows_bind {action : Action W A} {plain cached : A → Action W B}
    (unconcerned : Unconcerned action) (fresh : StylesFresh disk session)
    (rest : ∀ value after, SameStyling session after → StylesFresh disk after →
      Follows disk (plain value) (cached value) after) :
    Follows disk (action >>= plain) (action >>= cached) session := by
  apply (unconcerned session).bind
  next =>
    rintro e after ⟨styling, options, ran⟩
    exact ⟨by rw [run_bind, ran], fresh.frame options styling.revision styling.settings⟩
  next =>
    rintro value after ⟨styling, options, ran⟩
    apply (rest value after styling
      (fresh.frame options styling.revision styling.settings)).mono
    rintro result last ⟨continued, kept⟩
    rw [run_bind, ran]
    exact ⟨continued, kept⟩

theorem follows_get {plain cached : Session W → Action W A}
    (rest : Follows disk (plain session.unstyled) (cached session) session) :
    Follows disk (get >>= plain) (get >>= cached) session := rest

theorem options_follow {rest : StyleOptions → Action W A} {folder : Option Path}
    (unconcerned : ∀ options, Unconcerned (rest options)) (spelling : disk.IgnoresSpelling)
    (fresh : StylesFresh disk session)
    (same : ∀ path ∈ StyleOptions.files folder session.settings.styleConfig,
      host.disk.read path = disk.read path) :
    Follows disk (loadOptionsFor host folder >>= rest) (styleOptionsFor host folder >>= rest)
      session := by
  apply (styleOptionsFor_loads spelling fresh folder same).bind
  next =>
    rintro e after ⟨absurd, -⟩
    cases absurd
  next =>
    rintro options _ ⟨loaded, styleOptions, rfl, fresh⟩
    cases loaded
    exact (unconcerned _).follows fresh

section Styling

variable {engine : Engine W} {uri : Uri} {after : Session W}

theorem Moves.styling (moves : Moves engine uri session after) : SameStyling session after := by
  induction moves with
  | refl => exact .refl session
  | tail _ move ih => exact ih.trans (by cases move <;> exact ⟨rfl, rfl, rfl⟩)

theorem Validates.styling {ok : Bool} (validates : Validates engine uri session ok after) :
    SameStyling session after := by
  cases validates with
  | failed _ moves => exact moves.styling
  | concluded middle _ moves concludes =>
    exact moves.styling.trans (by cases concludes <;> exact ⟨rfl, rfl, rfl⟩)

theorem ValidatesEach.styling {uris : List Uri}
    (validates : ValidatesEach engine uris session after) : SameStyling session after := by
  induction validates with
  | done => exact .refl _
  | next _ _ _ _ _ _ first _ ih => exact first.styling.trans ih

end Styling

section Messages

variable (surroundings : Surroundings W)

theorem validate_follows (spelling : disk.IgnoresSpelling) (uri : Uri)
    (fresh : StylesFresh disk session) (same : SameStyleFiles disk surroundings.host session) :
    Follows disk (validateBy loadOptionsFor surroundings uri) (validate surroundings uri)
      session := by
  apply started_unconcerned.follows_bind fresh
  intro environment connected first fresh
  apply (handleFor_unconcerned uri).follows_bind fresh
  intro handle held second fresh
  apply (openDocument_unconcerned uri).follows_bind fresh
  intro document current third fresh
  apply follows_get
  -- From here on the two differ in how they come by the options, and in nothing else.
  refine options_follow (fun options => ?_) spelling fresh
    (same.frame ((first.trans second).trans third) uri)
  exact (examine_unconcerned _ _ _).bind fun validation => conclude_unconcerned _ _ _ _ _ _ _

theorem validateEach_follows (spelling : disk.IgnoresSpelling) (uris : List Uri)
    (fresh : StylesFresh disk session) (same : SameStyleFiles disk surroundings.host session) :
    Follows disk (passEach (validateBy loadOptionsFor surroundings) uris)
      (validateEach surroundings uris) session := by
  induction uris generalizing session with
  | nil => exact (Unconcerned.pure ()).follows fresh
  | cons uri rest ih =>
    obtain ⟨ran, fresh⟩ := validate_follows surroundings spelling uri fresh same
    have styling := (validate_ensures surroundings uri session).styling
    obtain ⟨others, kept⟩ := ih fresh (same.frame styling)
    unfold Follows Ensures passEach validateEach
    rw [run_bind, run_bind, run_recovered, run_recovered, ran]
    exact ⟨others, kept⟩

theorem prepared_follows {action : Action W A} (unconcerned : Unconcerned action)
    (spelling : disk.IgnoresSpelling) {uri : Uri} (fresh : StylesFresh disk session)
    (same : SameStyleFiles disk surroundings.host
      ((action >>= fun _ => validate surroundings uri).run session).2) :
    Follows disk (action >>= fun _ => validateBy loadOptionsFor surroundings uri)
      (action >>= fun _ => validate surroundings uri) session := by
  have styling : Ensures (action >>= fun _ => validate surroundings uri) session fun _ after =>
      SameStyling session after := by
    apply (unconcerned session).bind
    next => exact fun e after kept => kept.1
    next =>
      intro value after kept
      exact (validate_ensures surroundings uri after).mono fun _ _ validates =>
        kept.1.trans validates.styling
  apply unconcerned.follows_bind fresh
  intro value after prepared fresh
  exact validate_follows surroundings spelling uri fresh
    ((same.frame (SameStyling.symm styling)).frame prepared)

theorem configure_follows (spelling : disk.IgnoresSpelling) (update : List (String × Json))
    (fresh : StylesFresh disk session)
    (same : SameStyleFiles disk surroundings.host
      ((applySettingsBy (validateEach surroundings) update).run session).2) :
    Follows disk (applySettingsBy (passEach (validateBy loadOptionsFor surroundings)) update)
      (applySettingsBy (validateEach surroundings) update) session := by
  unfold applySettingsBy at same ⊢
  rw [run_get] at same
  apply follows_get
  dsimp only [unstyled]
  cases applied : session.settings.apply update with
  | error cause => exact (Unconcerned.fail _).follows fresh
  | ok outcome =>
    obtain ⟨settings, change⟩ := outcome
    simp only [applied] at same
    rw [run_set] at same
    replace fresh := fresh.configure applied
    unfold Follows Ensures
    rw [run_set, run_set]
    cases needed : change.needsRevalidation with
    | false =>
      simp only [Bool.false_eq_true, if_false]
      exact (Unconcerned.pure ()).follows fresh
    | true =>
      simp only [needed, if_true] at same ⊢
      have styling := (validateEach_ensures surroundings session.documents.uris
        { session with settings, revision := session.revision.bump change }).2.styling
      exact validateEach_follows surroundings spelling session.documents.uris fresh
        (same.frame styling.symm)

-- The files are looked at as they are when the message has been dealt with. By then the settings
-- and the workspace are those of its passes.
theorem receive_follows (spelling : disk.IgnoresSpelling) (notice : Notice)
    (fresh : StylesFresh disk session)
    (same : SameStyleFiles disk surroundings.host ((receive surroundings notice).run session).2) :
    Follows disk (receiveBy (validateBy loadOptionsFor surroundings) surroundings notice)
      (receive surroundings notice) session := by
  cases notice with
  | didOpen item =>
    rw [← receiveBy_validate] at same ⊢
    simp only [receiveBy, ← bind_assoc] at same ⊢
    apply prepared_follows surroundings _ spelling fresh same
    apply Unconcerned.bind _ fun _ => evict_unconcerned item.uri
    exact .modify (fun _ => ⟨rfl, rfl, rfl⟩) (fun _ => rfl) fun _ => rfl
  | didChange uri version changes =>
    apply Unconcerned.follows _ fresh
    apply Unconcerned.get fun _ => rfl
    intro held
    apply (storeDocuments_unconcerned _ _).bind
    intro _
    apply (changeChecks_unconcerned _).bind
    intro _
    exact (rebuildHandle_unconcerned _).bind fun _ => .pure _
  | didClose uri =>
    apply Unconcerned.follows _ fresh
    apply Unconcerned.bind
    · exact .modify (fun _ => ⟨rfl, rfl, rfl⟩) (fun _ => rfl) fun _ => rfl
    · exact fun _ => (evict_unconcerned _).bind fun _ => changeChecks_unconcerned _
  | willSave uri => exact (Unconcerned.pure ()).follows fresh
  | didSave uri text =>
    rw [← receiveBy_validate] at same ⊢
    simp only [receiveBy] at same ⊢
    rw [run_get] at same
    apply follows_get
    cases text with
    | none =>
      exact prepared_follows surroundings (storeDocuments_unconcerned _ _) spelling fresh same
    | some text =>
      simp only [Option.isSome_some, if_true, ← bind_assoc] at same ⊢
      exact prepared_follows surroundings
        ((storeDocuments_unconcerned _ _).bind fun _ => evict_unconcerned uri) spelling fresh same
  | didChangeConfiguration payload =>
    rw [← receiveBy_validate] at same ⊢
    simp only [receiveBy, passEach_validate] at same ⊢
    split
    next update found =>
      simp only [found] at same
      exact configure_follows surroundings spelling update fresh same
    next => exact (Unconcerned.pure ()).follows fresh
  | didChangeFolders change => exact ⟨rfl, fresh⟩

end Messages

end Passes

section Runs

variable {disk : Disk} {session : Session W}

theorem perform_follows {plain cached : Action W A} (follows : Follows disk plain cached session) :
    let outcome := perform cached session
    perform plain session.unstyled = { outcome with state := outcome.state.unstyled } ∧
      StylesFresh disk outcome.state := by
  obtain ⟨ran, fresh⟩ := follows
  refine ⟨?_, fresh⟩
  unfold perform
  rw [ran]
  rfl

theorem deliver_follows (surroundings : Surroundings W) (spelling : disk.IgnoresSpelling)
    (message : EditorMessage) (fresh : StylesFresh disk session)
    (same : SameStyleFiles disk surroundings.host
      ((handler surroundings).deliver message session).state) :
    let outcome := (handler surroundings).deliver message session
    (handlerBy loadOptionsFor surroundings).deliver message session.unstyled =
        { outcome with state := outcome.state.unstyled } ∧
      StylesFresh disk outcome.state := by
  cases message with
  | query query =>
    have unconcerned : Unconcerned (answer surroundings.launcher.engine query) :=
      answer_unconcerned query
    obtain ⟨performed, kept⟩ := perform_follows (unconcerned.follows fresh)
    refine ⟨?_, kept⟩
    simp only [Handler.deliver, handlerBy, handler, performed]
    rfl
  | notice notice =>
    exact perform_follows (receive_follows surroundings spelling notice fresh same)
  | shutdown => exact perform_follows ((shutdown_unconcerned surroundings).follows fresh)

theorem StylesFresh.connect (fresh : StylesFresh disk session) (surroundings : Surroundings W)
    (params : InitializeParams) :
    StylesFresh disk ((handler surroundings).connect params session).state := by
  have kept : Ensures (Session.connect surroundings params) session fun _ after =>
      StylesFresh disk after := by
    apply ensures_modify
    apply ensures_get
    split
    next result world launched =>
      apply ensures_set
      cases result with
      | error reason => exact ensures_fail (fresh.frame rfl rfl rfl)
      | ok environment => exact fresh.frame rfl rfl rfl
  exact kept.frame rfl rfl rfl

end Runs

end Session

open Session

def SteadyFiles (launcher : Launcher W) (disk : Disk) : Situation W → List SessionCall → Prop
  | _, [] => True
  | situation, call :: rest =>
    let next := situation.meet launcher call
    (match call with
      | .event (.message host _) => SameStyleFiles disk host next.session
      | _ => True) ∧
    SteadyFiles launcher disk next rest

section Lifetime

variable {launcher : Launcher W} {disk : Disk}

theorem SteadyFiles.fresh_meet {situation : Situation W} {call : SessionCall}
    {rest : List SessionCall} (spelling : disk.IgnoresSpelling)
    (steady : SteadyFiles launcher disk situation (call :: rest))
    (fresh : StylesFresh disk situation.session) :
    StylesFresh disk (situation.meet launcher call).session := by
  have same := steady.1
  cases call with
  | connect host params => exact fresh.connect _ params
  | event event =>
    unfold Situation.meet at same ⊢
    dsimp only at same ⊢
    split
    next connected =>
      rw [if_pos connected] at same
      cases event with
      | message host message =>
        exact (deliver_follows { launcher, host } spelling message fresh same).2
      | ended flight run =>
        unfold Situation.advance
        dsimp only
        split
        · exact fresh.frame rfl rfl rfl
        · exact fresh
    next => exact fresh

theorem SteadyFiles.fresh_lifetime {situation : Situation W} {before rest : List SessionCall}
    (spelling : disk.IgnoresSpelling)
    (steady : SteadyFiles launcher disk situation (before ++ rest))
    (fresh : StylesFresh disk situation.session) :
    let reached := before.foldl (Situation.meet launcher) situation
    StylesFresh disk reached.session ∧ SteadyFiles launcher disk reached rest := by
  induction before generalizing situation with
  | nil => exact ⟨fresh, steady⟩
  | cons call others ih => exact ih steady.2 (steady.fresh_meet spelling fresh)

theorem SteadyFiles.same_outcome {situation : Situation W} {host : Host}
    {message : EditorMessage} {rest : List SessionCall} (spelling : disk.IgnoresSpelling)
    (steady : SteadyFiles launcher disk situation (.event (.message host message) :: rest))
    (fresh : StylesFresh disk situation.session)
    (connected : situation.session.environment.isSome = true) :
    let outcome := (handler { launcher, host }).deliver message situation.session
    (handlerBy loadOptionsFor { launcher, host }).deliver message situation.session.unstyled =
      { outcome with state := outcome.state.unstyled } := by
  have same := steady.1
  simp only [Situation.meet, if_pos connected] at same
  exact (deliver_follows { launcher, host } spelling message fresh same).1

end Lifetime

-- While the files stay as they are, every message of a run has the outcome that it has for a
-- session that reads the options of a folder anew in each of its passes: the same answer, the same
-- notices, the same calls of the engine and the same state.
theorem style_cache_is_invisible (launcher : Launcher W) (disk : Disk) (python : String)
    (settings : Settings) (world : W) (before after : List SessionCall) (host : Host)
    (message : EditorMessage) (spelling : disk.IgnoresSpelling)
    (steady : SteadyFiles launcher disk { session := create python settings world, flights := [] }
      (before ++ .event (.message host message) :: after)) :
    let session := ((create python settings world).lifetime launcher before).session
    let outcome := (handler { launcher, host }).deliver message session
    session.environment.isSome = true →
      (handlerBy loadOptionsFor { launcher, host }).deliver message session.unstyled =
        { outcome with state := outcome.state.unstyled } := by
  intro session outcome connected
  obtain ⟨fresh, onward⟩ := steady.fresh_lifetime spelling (.empty _ _)
  exact onward.same_outcome spelling fresh connected

namespace CannedEngine

def projectDisk : Disk :=
  .ofFiles [(.ofString "/proj/setup.cfg", Utf8.encode "[pycodestyle]\nmax-line-length = 100\n")]

def projectHost : Host := { Host.bare with disk := projectDisk }

def projectParams : InitializeParams :=
  { InitializeParams.bare with
    offer := { rootUri := none, rootPath := some "/proj", folders := [] } }

-- A document that belongs to the root is open, and the root is also a folder in another spelling.
def beforeSpelledAgain : List SessionCall :=
  [.connect projectHost projectParams,
    .event (.message projectHost (.notice (.didOpen newDocument))),
    .event (.message projectHost (.notice (.didChangeFolders
      { added := [{ uri := ⟨"file:///proj/"⟩, name := "proj" }], removed := [] })))]

def spelledAgain : DocumentItem :=
  { uri := ⟨"file:///proj/b.py"⟩, languageId := "python", version := 1, text := "x = 1\n" }

def withRootOpen : Session CannedEngine :=
  ((create "python3" .default silent).lifetime launcher beforeSpelledAgain).session

end CannedEngine

open CannedEngine in
theorem style_cache_is_invisible_to_other_spelling :
    let outcome := (handler { launcher, host := projectHost }).deliver
      (.notice (.didOpen spelledAgain)) withRootOpen
    (withRootOpen.styleOptions.find? (some (.ofString "/proj/")) 0).map
        StyleOptions.maxLineLength = some 100 ∧
      withRootOpen.workspace.folderPathFor spelledAgain.uri = some (.ofString "/proj/") ∧
      (handlerBy loadOptionsFor { launcher, host := projectHost }).deliver
          (.notice (.didOpen spelledAgain)) withRootOpen.unstyled =
        { outcome with state := outcome.state.unstyled } := by
  have steady : SteadyFiles launcher projectDisk
      { session := create "python3" .default silent, flights := [] }
      (beforeSpelledAgain ++
        .event (.message projectHost (.notice (.didOpen spelledAgain))) :: []) :=
    ⟨trivial, fun _ _ _ => rfl, fun _ _ _ => rfl, fun _ _ _ => rfl, trivial⟩
  refine ⟨by decide +kernel, by decide +kernel, ?_⟩
  exact style_cache_is_invisible launcher projectDisk "python3" .default silent
    beforeSpelledAgain [] projectHost (.notice (.didOpen spelledAgain))
    (Disk.ofFiles_ignoresSpelling _) steady (by decide +kernel)

end PythonAssist
