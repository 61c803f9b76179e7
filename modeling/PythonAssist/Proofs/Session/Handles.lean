import PythonAssist.Engine.Canned
import PythonAssist.Proofs.Session.Coherence

set_option autoImplicit false

namespace PythonAssist

variable {W : Type}

def EditorMessage.Concerns : EditorMessage → Uri → Prop
  | .query question, uri => question.uri = uri
  | .notice (.didOpen item), uri => item.uri = uri
  | .notice (.didChange other _ _), uri => other = uri
  | .notice (.didSave other _), uri => other = uri
  | .notice (.didChangeConfiguration _), _ => True
  | _, _ => False

def SessionEvent.Concerns : SessionEvent → Uri → Prop
  | .message _ sent, uri => sent.Concerns uri
  | .ended _ _, _ => False

structure Ledger.Grows (concerned : Uri → Prop) (documents : DocumentStore)
    (before after : Ledger W) (new : List ScriptCall) : Prop where
  calls : after.calls = before.calls ++ new
  sessions : ∃ more, after.sessions = before.sessions ++ more
  asked : ∀ script, .asked script ∈ new → ∃ uri document, concerned uri ∧
    documents.find? uri = some document ∧ after.textOf? script = some document.text

namespace Ledger.Grows

variable {concerned wider : Uri → Prop} {documents : DocumentStore}
  {before middle after : Ledger W} {first second new : List ScriptCall}

theorem unasked (calls : after.calls = before.calls ++ new)
    (sessions : ∃ more, after.sessions = before.sessions ++ more)
    (quiet : ∀ script, .asked script ∉ new) : Grows concerned documents before after new :=
  ⟨calls, sessions, fun script asked => absurd asked (quiet script)⟩

theorem same (calls : after.calls = before.calls) (sessions : after.sessions = before.sessions) :
    Grows concerned documents before after [] := by
  rw [← List.append_nil before.calls] at calls
  rw [← List.append_nil before.sessions] at sessions
  exact unasked calls ⟨[], sessions⟩ (by simp)

theorem refl (ledger : Ledger W) : Grows concerned documents ledger ledger [] := same rfl rfl

theorem trans (one : Grows concerned documents before middle first)
    (other : Grows concerned documents middle after second) :
    Grows concerned documents before after (first ++ second) := by
  obtain ⟨more, sessions⟩ := one.sessions
  obtain ⟨further, later⟩ := other.sessions
  refine ⟨?_, ⟨more ++ further, ?_⟩, ?_⟩
  · rw [other.calls, one.calls, List.append_assoc]
  · rw [later, sessions, List.append_assoc]
  · intro script asked
    rcases List.mem_append.mp asked with asked | asked
    next =>
      obtain ⟨uri, document, concerns, found, text⟩ := one.asked script asked
      exact ⟨uri, document, concerns, found, textOf?_append later text⟩
    next => exact other.asked script asked

theorem widen (grows : Grows concerned documents before after new)
    (weaker : ∀ uri, concerned uri → wider uri) : Grows wider documents before after new := by
  refine ⟨grows.calls, grows.sessions, fun script asked => ?_⟩
  obtain ⟨uri, document, concerns, found, text⟩ := grows.asked script asked
  exact ⟨uri, document, weaker uri concerns, found, text⟩

end Ledger.Grows

namespace Session

open Ledger

section Recorded

variable {engine : Engine W} {uri : Uri}

def OpenedWith (ledger : Ledger W) (script : ScriptId) (text : String) : Prop :=
  ledger.textOf? script = some text

theorem evict_grows {concerned : Uri → Prop} (documents : DocumentStore)
    (session : Session (Ledger W)) :
    ∃ new, Grows concerned documents session.world
      (dropHandle engine.recorded uri session).world new := by
  unfold dropHandle HandleCache.evict
  split
  next => exact ⟨[], .refl _⟩
  next handle _ =>
    exact ⟨[.released handle.script], .unasked rfl ⟨[], (List.append_nil _).symm⟩ (by simp)⟩

theorem Move.grows {session after : Session (Ledger W)}
    (move : Move engine.recorded uri session after) (tracks : Tracks OpenedWith session) :
    ∃ new, Grows (· = uri) session.documents session.world after.world new := by
  cases move with
  | evicted => exact evict_grows _ session
  | opened document script world missing found opens =>
    rcases open_recorded engine document.text document.path session.world with
      ⟨cause, failed, -⟩ | ⟨inner, -, sessions, calls⟩
    next => simp [opens] at failed
    next =>
      rw [opens] at sessions calls
      exact ⟨_, .unasked calls ⟨_, sessions⟩ (by simp)⟩
  | unopened document cause world opens =>
    rcases open_recorded engine document.text document.path session.world with
      ⟨_, -, sessions, calls⟩ | ⟨inner, opened, -⟩
    next =>
      rw [opens] at sessions calls
      exact ⟨[], .same calls sessions⟩
    next => simp [opens] at opened
  | asked handle world cached asks =>
    obtain ⟨sessions, calls⟩ := asks_recorded asks
    rw [← List.append_nil session.world.sessions] at sessions
    refine ⟨_, calls, ⟨[], sessions⟩, fun script asked => ?_⟩
    obtain rfl : script = handle.script := by simpa using asked
    obtain ⟨document, found, -, opened⟩ := tracks uri handle trivial cached
    exact ⟨uri, document, rfl, found, textOf?_append sessions opened⟩
  | consulted world consults =>
    obtain ⟨sessions, calls⟩ := consults_recorded consults
    exact ⟨[], .same calls sessions⟩
  | derived => exact ⟨[], .refl _⟩

theorem Moves.grows {session after : Session (Ledger W)}
    (moves : Moves engine.recorded uri session after) (tracks : Tracks OpenedWith session) :
    ∃ new, Grows (· = uri) session.documents session.world after.world new := by
  induction moves with
  | refl => exact ⟨[], .refl _⟩
  | tail moves move ih =>
    obtain ⟨first, grows⟩ := ih
    obtain ⟨second, further⟩ := move.grows (Moves.tracks (recorded_remembers engine) moves tracks)
    rw [(Moves.keeps moves).documents] at further
    exact ⟨first ++ second, grows.trans further⟩

theorem Validates.grows {ok : Bool} {session after : Session (Ledger W)}
    (validates : Validates engine.recorded uri session ok after)
    (tracks : Tracks OpenedWith session) :
    ∃ new, Grows (· = uri) session.documents session.world after.world new := by
  cases validates with
  | failed _ moves => exact moves.grows tracks
  | concluded middle _ moves concludes =>
    have same : after.world = middle.world := by cases concludes <;> rfl
    rw [same]
    exact moves.grows tracks

theorem ValidatesEach.grows {uris : List Uri} {session after : Session (Ledger W)}
    (validates : ValidatesEach engine.recorded uris session after)
    (tracks : Tracks OpenedWith session) :
    ∃ new, Grows (fun _ => True) session.documents session.world after.world new := by
  induction validates with
  | done => exact ⟨[], .refl _⟩
  | next uri rest ok session middle after validates _ ih =>
    obtain ⟨first, grows⟩ := validates.grows tracks
    obtain ⟨second, further⟩ := ih (validates.tracks (recorded_remembers engine) tracks)
    rw [validates.keeps.2] at further
    exact ⟨first ++ second, (grows.widen fun _ _ => trivial).trans further⟩

theorem clear_grows {concerned : Uri → Prop} (documents : DocumentStore) (cache : HandleCache)
    (ledger : Ledger W) :
    ∃ new, Grows concerned documents ledger (cache.clear engine.recorded ledger).2 new := by
  unfold HandleCache.clear
  dsimp only
  generalize cache.handles.values = handles
  induction handles generalizing ledger with
  | nil => exact ⟨[], .refl _⟩
  | cons handle rest ih =>
    obtain ⟨second, further⟩ := ih (engine.recorded.release handle.script ledger)
    have released : Grows concerned documents ledger
        (engine.recorded.release handle.script ledger) [.released handle.script] :=
      .unasked rfl ⟨[], (List.append_nil _).symm⟩ (by simp)
    exact ⟨_, released.trans further⟩

-- The documents have changed before the handle goes and anything is asked.
theorem Validates.grows_dropped {ok : Bool} {session after : Session (Ledger W)}
    (validates : Validates engine.recorded uri (dropHandle engine.recorded uri session) ok after)
    (others : TracksWhere OpenedWith (· ≠ uri) session) :
    ∃ new, Grows (· = uri) after.documents session.world after.world new := by
  obtain ⟨first, dropped⟩ := evict_grows session.documents session
  obtain ⟨second, grows⟩ := validates.grows (dropHandle_tracks (recorded_remembers engine) others)
  rw [validates.keeps.2]
  exact ⟨_, dropped.trans grows⟩

theorem Delivers.grows {message : EditorMessage} {ok : Bool} {session after : Session (Ledger W)}
    (delivers : Delivers engine.recorded session message ok after)
    (tracks : Tracks OpenedWith session) :
    ∃ new, Grows message.Concerns after.documents session.world after.world new := by
  cases delivers with
  | answered query _ _ moves =>
    obtain ⟨new, grows⟩ := moves.grows tracks
    rw [moves.keeps.documents]
    exact ⟨new, grows.widen fun uri same => same.symm⟩
  | opened item _ _ validates =>
    obtain ⟨new, grows⟩ := validates.grows_dropped (tracks.openItem item)
    exact ⟨new, grows.widen fun uri same => same.symm⟩
  | changed uri version changes documents _ _ applied moves =>
    have others : TracksWhere OpenedWith (· ≠ uri)
        { session with documents, checks := session.checks.cancel uri } :=
      tracks.replace (DocumentStore.change_others applied) rfl rfl rfl
    obtain ⟨new, grows⟩ := Validates.grows_dropped (.failed after moves) others
    exact ⟨new, grows.widen fun uri same => same.symm⟩
  | notChanged => exact ⟨[], .refl _⟩
  | closed uri => exact evict_grows _ { session with documents := session.documents.close uri }
  | waitedForSave => exact ⟨[], .refl _⟩
  | saved uri _ _ _ validates =>
    obtain ⟨new, grows⟩ := validates.grows tracks
    rw [validates.keeps.2]
    exact ⟨new, grows.widen fun uri same => same.symm⟩
  | savedText uri text documents _ _ applied validates =>
    obtain ⟨new, grows⟩ := validates.grows_dropped (tracks.saveText applied)
    exact ⟨new, grows.widen fun uri same => same.symm⟩
  | notSaved => exact ⟨[], .refl _⟩
  | notConfigured => exact ⟨[], .refl _⟩
  | configured payload settings revision uris _ _ validates =>
    obtain ⟨new, grows⟩ := validates.grows (tracks.frame rfl rfl fun _ _ => id)
    rw [validates.keeps.2]
    exact ⟨new, grows⟩
  | moved => exact ⟨[], .refl _⟩
  | stopped => exact clear_grows _ _ _

end Recorded

section Entries

variable (engine : Engine W) (cache : HandleCache) (uri : Uri)

theorem build_others (documents : DocumentStore) (world : W) (other : Uri)
    (different : other ≠ uri) :
    (cache.build engine documents uri world).2.1.find? other = cache.find? other := by
  have evicted := find?_evict engine cache uri other world
  rw [if_neg different] at evicted
  unfold HandleCache.build
  generalize cache.evict engine uri world = removed at evicted ⊢
  cases documents.find? uri with
  | none => exact evicted
  | some document =>
    rcases opens : engine.openScript document.text document.path removed.2 with
      ⟨cause | script, after⟩
    · simpa [opens] using evicted
    · simpa [opens, HandleCache.find?, Table.find?_insert, different] using evicted

theorem build_failed {documents : DocumentStore} {world : W} {cause : HandleError}
    (failed : (cache.build engine documents uri world).1 = .error cause) :
    (cache.build engine documents uri world).2.1.find? uri = none := by
  have gone := find?_evict engine cache uri uri world
  rw [if_pos rfl] at gone
  unfold HandleCache.build at failed ⊢
  generalize cache.evict engine uri world = removed at gone failed ⊢
  cases found : documents.find? uri with
  | none => exact gone
  | some document =>
    rcases opens : engine.openScript document.text document.path removed.2 with
      ⟨_ | script, after⟩
    · simpa [opens] using gone
    · simp [found, opens] at failed

theorem obtain_missing (missing : cache.find? uri = none) (documents : DocumentStore) (world : W) :
    cache.obtain engine documents uri world = cache.build engine documents uri world := by
  simp [HandleCache.obtain, missing]

end Entries

theorem remembers_nothing (engine : Engine W) : engine.Remembers fun _ _ _ => True :=
  ⟨by simp, by simp, by simp, by simp, by simp⟩

theorem reachable_tracks {launcher : Launcher W} {opened : W → ScriptId → String → Prop}
    (remembers : launcher.engine.Remembers opened) {situation : Situation W}
    (reachable : Reachable launcher situation) :
    Settled situation.session ∧ Tracks opened situation.session := by
  apply reachable_invariant (Tracks opened) _ _ _ reachable
  next =>
    intro session blank uri handle _ cached
    rw [blank.handles] at cached
    cases cached
  next =>
    intro session message ok after _ tracks delivers
    exact (delivers.tracks remembers tracks).frame rfl rfl fun _ _ => id
  next =>
    intro session uri generation pending run tracks
    exact tracks.frame rfl rfl fun _ _ => id

end Session

-- Between the events of a run every handle in the cache shows an open document as it is. One that
-- cannot be built leaves no trace, and what a message asks of the engine is answered by a script
-- with the current text of a document that the message is about.
theorem handles_follow_documents (launcher : Launcher W) :
    (∀ situation, Reachable launcher situation →
      ∀ uri handle, situation.session.handles.find? uri = some handle →
        ∃ document, situation.session.documents.find? uri = some document ∧
          handle.Mirrors uri document) ∧
    (∀ (cache : HandleCache) (documents : DocumentStore) (uri : Uri) (world : W) cause,
      let built := cache.build launcher.engine documents uri world
      built.1 = .error cause →
        built.2.1.find? uri = none ∧
        (∀ other, other ≠ uri → built.2.1.find? other = cache.find? other) ∧
        ∀ documents world, built.2.1.obtain launcher.engine documents uri world =
          built.2.1.build launcher.engine documents uri world) ∧
    ∀ situation event, Reachable launcher.recorded situation →
      let after := (situation.advance launcher.recorded event).state
      ∃ new, after.session.world.calls = situation.session.world.calls ++ new ∧
        ∀ script, .asked script ∈ new → ∃ uri document, event.Concerns uri ∧
          after.session.documents.find? uri = some document ∧
          after.session.world.textOf? script = some document.text := by
  refine ⟨?_, ?_, ?_⟩
  next =>
    intro situation reachable uri handle cached
    have tracks := (Session.reachable_tracks (Session.remembers_nothing _) reachable).2
    obtain ⟨document, found, mirrors, -⟩ := tracks uri handle trivial cached
    exact ⟨document, found, mirrors⟩
  next =>
    intro cache documents uri world cause built failed
    have missing := Session.build_failed launcher.engine cache uri failed
    exact ⟨missing, Session.build_others launcher.engine cache uri documents world,
      Session.obtain_missing launcher.engine _ uri missing⟩
  next =>
    intro situation event reachable after
    obtain ⟨settled, tracks⟩ :=
      Session.reachable_tracks (recorded_remembers launcher.engine) reachable
    cases event with
    | message host message =>
      obtain ⟨last, delivers, -, state⟩ := Session.deliver_delivers
        { launcher := launcher.recorded, host } message situation.session settled.connected
      obtain ⟨new, grows⟩ := delivers.grows tracks
      have session : after.session = { last with notices := [] } := state
      rw [session]
      exact ⟨new, grows.calls, grows.asked⟩
    | ended flight run =>
      have same : after.session.world = situation.session.world := by
        simp only [after, Situation.advance]
        split <;> rfl
      exact ⟨[], by simp [same], by simp⟩

namespace CannedEngine

def silent : CannedEngine :=
  { answers :=
      { syntaxErrors := [], completions := [], help := [], infer := [], signatures := []
        goto := [], references := [], names := [], inlined := none }
    flakes := [], style := []
    environment := { executable := .ofString "/usr/bin/python3", version := "3.12", sysPath := [] }
    launchError := none, failures := [], scripts := .empty, opened := 0, calls := [] }

def refusing : CannedEngine := { silent with failures := [("open", .worker "no session")] }

end CannedEngine

def Host.bare : Host :=
  { disk := { read := fun _ => none, isThere := fun _ => false }
    envVariables := [], check := fun _ _ => .notStarted "" }

def InitializeParams.bare : InitializeParams :=
  { options := none, styles := { snippets := false, nestedSymbols := false }
    offer := { rootUri := none, rootPath := none, folders := [] } }

namespace CannedEngine

def connected : Situation (Ledger CannedEngine) :=
  let session :=
    Session.create "python3" .default { world := silent, sessions := [], calls := [] }
  { session :=
      ((Session.handler { launcher := launcher.recorded, host := .bare }).connect .bare
        session).state
    flights := [] }

theorem connected_reachable : Reachable launcher.recorded connected :=
  .connected .bare .bare _ _ (.created _ _ _) rfl

def newDocument : DocumentItem :=
  { uri := ⟨"untitled:new"⟩, languageId := "python", version := 1, text := "x = 1\n" }

def withDocument : Situation (Ledger CannedEngine) :=
  (connected.advance launcher.recorded (.message .bare (.notice (.didOpen newDocument)))).state

theorem withDocument_reachable : Reachable launcher.recorded withDocument :=
  .advanced connected _ connected_reachable

end CannedEngine

open CannedEngine in
theorem handles_follow_new_document :
    (∃ handle document, withDocument.session.handles.find? newDocument.uri = some handle ∧
      withDocument.session.documents.find? newDocument.uri = some document ∧
      handle.Mirrors newDocument.uri document) ∧
    (withDocument.session.handles.build launcher.engine withDocument.session.documents
      newDocument.uri refusing).2.1.find? newDocument.uri = none ∧
    ∃ uri document, withDocument.session.documents.find? uri = some document ∧
      ScriptCall.asked 0 ∈ withDocument.session.world.calls ∧
      withDocument.session.world.textOf? 0 = some document.text := by
  have cached : (withDocument.session.handles.find? newDocument.uri).isSome = true := by decide
  obtain ⟨handle, found⟩ := Option.isSome_iff_exists.mp cached
  have shown := (handles_follow_documents launcher.recorded).1 withDocument withDocument_reachable
    newDocument.uri handle found
  obtain ⟨document, isOpen, mirrors⟩ := shown
  have failed : (withDocument.session.handles.build launcher.engine withDocument.session.documents
      newDocument.uri refusing).1 = .error (.analysis newDocument.uri (.worker "no session")) := rfl
  have gone := (handles_follow_documents launcher).2.1 _ _ _ _ _ failed
  have answered := (handles_follow_documents launcher).2.2 connected
    (.message .bare (.notice (.didOpen newDocument))) connected_reachable
  obtain ⟨new, calls, asked⟩ := answered
  have made : withDocument.session.world.calls = [.opened 0, .asked 0] := by decide
  have none_before : connected.session.world.calls = [] := by decide
  have counted : new = [.opened 0, .asked 0] := by
    rw [← made, withDocument, calls, none_before, List.nil_append]
  obtain ⟨uri, current, -, known, text⟩ := asked 0 (by rw [counted]; decide)
  exact ⟨⟨handle, document, found, isOpen, mirrors⟩, gone.1, uri, current, known,
    by rw [made]; decide, text⟩

end PythonAssist
