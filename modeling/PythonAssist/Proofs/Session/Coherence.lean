import PythonAssist.Proofs.Session.Delivery

set_option autoImplicit false

namespace PythonAssist

variable {W : Type}

structure DocumentHandle.Mirrors (handle : DocumentHandle) (uri : Uri) (document : Document) :
    Prop where
  uri : handle.uri = uri
  version : handle.version = document.version
  lines : handle.lines = splitLines document.text
  text : handle.text = document.text

theorem join_map_ofList (lines : List (List Char)) :
    String.join (lines.map String.ofList) = String.ofList lines.flatten := by
  apply String.toList_injective
  induction lines with
  | nil => rfl
  | cons line rest ih => simp_all

theorem DocumentHandle.ofDocument_mirrors (document : Document) (uri : Uri) (script : ScriptId) :
    (ofDocument document uri script).Mirrors uri document := by
  refine ⟨rfl, rfl, rfl, ?_⟩
  simp [text, ofDocument, splitLines, join_map_ofList, Lines.split_flatten]

namespace Session

def TracksWhere (opened : W → ScriptId → String → Prop) (keys : Uri → Prop)
    (session : Session W) : Prop :=
  ∀ uri handle, keys uri → session.handles.find? uri = some handle →
    ∃ document, session.documents.find? uri = some document ∧ handle.Mirrors uri document ∧
      opened session.world handle.script document.text

def Tracks (opened : W → ScriptId → String → Prop) (session : Session W) : Prop :=
  TracksWhere opened (fun _ => True) session

section Invariant

variable {engine : Engine W} {opened : W → ScriptId → String → Prop}

theorem TracksWhere.frame {keys : Uri → Prop} {session after : Session W}
    (tracks : TracksWhere opened keys session) (handles : after.handles = session.handles)
    (documents : after.documents = session.documents)
    (world : ∀ script known, opened session.world script known → opened after.world script known) :
    TracksWhere opened keys after := by
  intro uri handle key cached
  rw [handles] at cached
  obtain ⟨document, found, mirrors, opens⟩ := tracks uri handle key cached
  exact ⟨document, documents ▸ found, mirrors, world _ _ opens⟩

theorem evict_keeps (remembers : engine.Remembers opened) (cache : HandleCache) (uri : Uri)
    (world : W) (script : ScriptId) (known : String) (opens : opened world script known) :
    opened (cache.evict engine uri world).2 script known := by
  unfold HandleCache.evict
  split
  · exact opens
  · exact remembers.keepsReleasing _ _ _ _ opens

-- What is not known of a document does not matter once its handle is gone.
theorem dropHandle_tracks (remembers : engine.Remembers opened) {uri : Uri} {session : Session W}
    (others : TracksWhere opened (· ≠ uri) session) :
    Tracks opened (dropHandle engine uri session) := by
  intro key handle _ cached
  simp only [dropHandle, find?_evict] at cached
  split at cached
  next => cases cached
  next different =>
    obtain ⟨document, found, mirrors, opens⟩ := others key handle different cached
    exact ⟨document, found, mirrors, evict_keeps remembers _ _ _ _ _ opens⟩

theorem Move.tracks (remembers : engine.Remembers opened) {uri : Uri} {session after : Session W}
    (move : Move engine uri session after) (tracks : Tracks opened session) :
    Tracks opened after := by
  cases move with
  | evicted =>
    exact dropHandle_tracks remembers fun key handle _ cached => tracks key handle trivial cached
  | opened document script world missing found opens =>
    have kept (other : ScriptId) (known : String) (before : opened session.world other known) :
        opened world other known := by
      have keeps := remembers.keepsOpening document.text document.path _ _ _ before
      rwa [opens] at keeps
    intro key handle _ cached
    simp only [HandleCache.find?, Table.find?_insert] at cached
    split at cached
    next same =>
      cases cached
      exact ⟨document, same ▸ found, same ▸ DocumentHandle.ofDocument_mirrors document uri script,
        remembers.opens _ _ _ _ _ opens⟩
    next =>
      obtain ⟨known, isOpen, mirrors, before⟩ := tracks key handle trivial cached
      exact ⟨known, isOpen, mirrors, kept _ _ before⟩
  | unopened document cause world opens =>
    refine tracks.frame rfl rfl fun script known before => ?_
    have keeps := remembers.keepsOpening document.text document.path _ _ _ before
    rwa [opens] at keeps
  | asked handle world cached asks =>
    exact tracks.frame rfl rfl fun _ _ => remembers.keepsAsking _ _ _ _ _ asks
  | consulted world consults =>
    exact tracks.frame rfl rfl fun _ _ => remembers.keepsConsulting _ _ _ _ consults
  | derived => exact tracks.frame rfl rfl fun _ _ => id

theorem Moves.tracks (remembers : engine.Remembers opened) {uri : Uri} {session after : Session W}
    (moves : Moves engine uri session after) (tracks : Tracks opened session) :
    Tracks opened after := by
  induction moves with
  | refl => exact tracks
  | tail _ move ih => exact move.tracks remembers ih

theorem Concludes.tracks {uri : Uri} {session after : Session W}
    (concludes : Concludes uri session after) (tracks : Tracks opened session) :
    Tracks opened after := by
  cases concludes <;> exact tracks.frame rfl rfl fun _ _ => id

theorem Validates.tracks (remembers : engine.Remembers opened) {uri : Uri} {ok : Bool}
    {session after : Session W} (validates : Validates engine uri session ok after)
    (tracks : Tracks opened session) : Tracks opened after := by
  cases validates with
  | failed _ moves => exact moves.tracks remembers tracks
  | concluded middle _ moves concludes => exact concludes.tracks (moves.tracks remembers tracks)

theorem ValidatesEach.tracks (remembers : engine.Remembers opened) {uris : List Uri}
    {session after : Session W} (validates : ValidatesEach engine uris session after)
    (tracks : Tracks opened session) : Tracks opened after := by
  induction validates with
  | done => exact tracks
  | next _ _ _ _ _ _ first _ ih => exact ih (first.tracks remembers tracks)

theorem Tracks.replace {session : Session W} (tracks : Tracks opened session) {uri : Uri}
    {documents : DocumentStore}
    (others : ∀ key, key ≠ uri → documents.find? key = session.documents.find? key)
    {after : Session W} (changed : after.documents = documents)
    (handles : after.handles = session.handles) (world : after.world = session.world) :
    TracksWhere opened (· ≠ uri) after := by
  intro key handle different cached
  rw [handles] at cached
  obtain ⟨document, found, mirrors, opens⟩ := tracks key handle trivial cached
  refine ⟨document, ?_, mirrors, world ▸ opens⟩
  rw [changed, others key different, found]

end Invariant

end Session

namespace DocumentStore

theorem find?_openItem (store : DocumentStore) (item : DocumentItem) (key : Uri) :
    (store.openItem item).find? key =
      if key = item.uri then some (.ofItem item) else store.find? key :=
  Table.find?_insert store.documents key item.uri _

theorem find?_close (store : DocumentStore) (uri key : Uri) :
    (store.close uri).find? key = if key = uri then none else store.find? key :=
  Table.find?_erase store.documents key uri

theorem change_others {store changed : DocumentStore} {uri : Uri} {version : Int}
    {changes : List ContentChange} (applied : store.change uri version changes = some changed)
    (key : Uri) (different : key ≠ uri) : changed.find? key = store.find? key := by
  unfold change at applied
  split at applied
  next => cases applied
  next =>
    cases applied
    simp [find?, Table.find?_insert, different]

theorem find?_save {store saved : DocumentStore} {uri : Uri} {text : String}
    (applied : store.save uri (some text) = some saved) :
    ∃ document, store.find? uri = some document ∧
      ∀ key, saved.find? key =
        if key = uri then some { document with text } else store.find? key := by
  unfold save at applied
  split at applied
  next => cases applied
  next document found =>
    cases applied
    exact ⟨document, found, fun key => Table.find?_insert _ _ _ _⟩

end DocumentStore

namespace Session

variable {engine : Engine W} {opened : W → ScriptId → String → Prop}

theorem Tracks.openItem {session : Session W} (tracks : Tracks opened session)
    (item : DocumentItem) :
    TracksWhere opened (· ≠ item.uri)
      { session with documents := session.documents.openItem item } :=
  tracks.replace (fun key different => by
    rw [DocumentStore.find?_openItem, if_neg different]) rfl rfl rfl

theorem Tracks.saveText {session : Session W} (tracks : Tracks opened session) {uri : Uri}
    {text : String} {documents : DocumentStore}
    (applied : session.documents.save uri (some text) = some documents) :
    TracksWhere opened (· ≠ uri) { session with documents } := by
  obtain ⟨document, -, kept⟩ := DocumentStore.find?_save applied
  exact tracks.replace (fun key different => by rw [kept, if_neg different]) rfl rfl rfl

theorem Delivers.tracks (remembers : engine.Remembers opened) {message : EditorMessage} {ok : Bool}
    {session after : Session W} (delivers : Delivers engine session message ok after)
    (tracks : Tracks opened session) : Tracks opened after := by
  cases delivers with
  | answered _ _ _ moves => exact moves.tracks remembers tracks
  | opened item _ _ validates =>
    exact validates.tracks remembers (dropHandle_tracks remembers (tracks.openItem item))
  | changed uri version changes documents _ _ applied moves =>
    refine moves.tracks remembers (dropHandle_tracks remembers ?_)
    exact tracks.replace (DocumentStore.change_others applied) rfl rfl rfl
  | notChanged => exact tracks
  | closed uri =>
    have dropped : Tracks opened
        (dropHandle engine uri { session with documents := session.documents.close uri }) := by
      refine dropHandle_tracks remembers (tracks.replace (fun key different => ?_) rfl rfl rfl)
      rw [DocumentStore.find?_close, if_neg different]
    exact dropped.frame rfl rfl fun _ _ => id
  | waitedForSave => exact tracks
  | saved uri _ _ _ validates => exact validates.tracks remembers tracks
  | savedText uri text documents _ _ applied validates =>
    exact validates.tracks remembers (dropHandle_tracks remembers (tracks.saveText applied))
  | notSaved => exact tracks
  | notConfigured => exact tracks
  | configured payload settings revision uris _ _ validates =>
    exact validates.tracks remembers (tracks.frame rfl rfl fun _ _ => id)
  | moved => exact tracks.frame rfl rfl fun _ _ => id
  | stopped =>
    intro uri handle _ cached
    cases cached

end Session

end PythonAssist
