import PythonAssist.Proofs.Session.Lifetime
import PythonAssist.Proofs.Session.Ownership
import PythonAssist.Proofs.Session.Staleness

set_option autoImplicit false

namespace PythonAssist

variable {W : Type}

namespace Schedule

variable {T : Type}

theorem generation?_cancelAll {schedule : Schedule T} (sound : Sound schedule) {uri : Uri}
    (known : (schedule.cancelAll.generation? uri).isSome = true) :
    (schedule.generation? uri).isSome = true := by
  have listed : ∀ key ∈ schedule.tasks.keys, (schedule.generation? key).isSome = true := by
    intro key member
    obtain ⟨entry, inside, rfl⟩ := List.mem_map.mp member
    simp [sound.current entry inside]
  have either (keys : List Uri) (before : Schedule T)
      (known : ((keys.foldl cancel before).generation? uri).isSome = true) :
      uri ∈ keys ∨ (before.generation? uri).isSome = true := by
    induction keys generalizing before with
    | nil => exact .inr known
    | cons key rest ih =>
      rcases ih _ known with later | now
      · exact .inl (List.mem_cons_of_mem _ later)
      · rw [generation?_cancel] at now
        split at now
        next same => exact .inl (same ▸ List.mem_cons_self)
        next => exact .inr now
  rcases either _ _ known with member | before
  · exact listed uri member
  · exact before

end Schedule

theorem DocumentStore.isSome_change {store changed : DocumentStore} {uri : Uri} {version : Int}
    {changes : List ContentChange} (applied : store.change uri version changes = some changed) :
    (changed.find? uri).isSome = true := by
  unfold change at applied
  split at applied
  next => cases applied
  next =>
    cases applied
    simp [find?, Table.find?_insert]

namespace Session

open Ledger

variable {engine : Engine W} {session after : Session W}

def Confined (session : Session W) : Prop :=
  ∀ uri, (session.checks.generation? uri).isSome = true →
    (session.documents.find? uri).isSome = true

theorem Confined.grow {checks : Schedule PendingCheck} (confined : Confined session) (uri : Uri)
    (isOpen : (session.documents.find? uri).isSome = true) (schedules : after.checks = checks)
    (generations : ∀ key, key ≠ uri → checks.generation? key = session.checks.generation? key)
    (documents : ∀ key, (session.documents.find? key).isSome = true →
      (after.documents.find? key).isSome = true) : Confined after := by
  intro key known
  by_cases same : key = uri
  next => exact documents key (same ▸ isOpen)
  next =>
    rw [schedules, generations key same] at known
    exact documents key (confined key known)

theorem Concludes.confined {uri : Uri} (concludes : Concludes uri session after)
    (coherent : Coherent session) (confined : Confined session) : Confined after := by
  cases concludes with
  | cancelled handle _ cached =>
    obtain ⟨document, found, -⟩ := coherent uri handle trivial cached
    refine confined.grow uri (by simp [found]) rfl (fun key different => ?_) fun _ => id
    rw [Schedule.generation?_cancel, if_neg different]
  | began handle pending _ cached =>
    obtain ⟨document, found, mirrors, -⟩ := coherent uri handle trivial cached
    refine confined.grow uri (by simp [found]) rfl (fun key different => ?_) fun _ => id
    rw [mirrors.uri, Schedule.generation?_start, if_neg different]

theorem Moves.confined {uri : Uri} (moves : Moves engine uri session after)
    (confined : Confined session) : Confined after := by
  rw [Confined, moves.keeps.checks, moves.keeps.documents]
  exact confined

theorem Validates.confined {uri : Uri} {ok : Bool}
    (validates : Validates engine uri session ok after) (coherent : Coherent session)
    (confined : Confined session) : Confined after := by
  cases validates with
  | failed _ moves => exact moves.confined confined
  | concluded middle _ moves concludes =>
    exact concludes.confined (moves.coherent coherent) (moves.confined confined)

theorem ValidatesEach.confined {uris : List Uri}
    (validates : ValidatesEach engine uris session after) (coherent : Coherent session)
    (confined : Confined session) : Confined after := by
  induction validates with
  | done => exact confined
  | next _ _ _ _ _ _ first _ ih =>
    exact ih (first.tracks (remembers_nothing engine) coherent) (first.confined coherent confined)

theorem Delivers.confined {message : EditorMessage} {ok : Bool}
    (delivers : Delivers engine session message ok after) (coherent : Coherent session)
    (sound : Schedule.Sound session.checks) (confined : Confined session) : Confined after := by
  cases delivers with
  | answered _ _ _ moves => exact moves.confined confined
  | opened item _ _ validates =>
    refine validates.confined (dropHandle_coherent (coherent.openItem item)) fun uri known => ?_
    simp only [dropHandle, DocumentStore.find?_openItem]
    split
    · rfl
    · exact confined uri known
  | changed uri _ _ documents _ _ applied moves =>
    refine moves.confined fun key known => ?_
    by_cases same : key = uri
    next =>
      subst same
      exact DocumentStore.isSome_change applied
    next =>
      simp only [dropHandle, Schedule.generation?_cancel, if_neg same] at known
      simp only [dropHandle, DocumentStore.change_others applied key same]
      exact confined key known
  | closed uri =>
    intro key known
    simp only [Schedule.generation?_forget] at known
    simp only [dropHandle, DocumentStore.find?_close]
    split at known
    next => cases known
    next different =>
      rw [if_neg different]
      exact confined key known
  | saved _ _ _ _ validates => exact validates.confined coherent confined
  | savedText uri text documents _ _ applied validates =>
    obtain ⟨saved, -, kept⟩ := DocumentStore.find?_save applied
    refine validates.confined (dropHandle_coherent (coherent.saveText applied)) fun key known => ?_
    simp only [dropHandle, kept]
    split
    · rfl
    · exact confined key known
  | configured _ settings revision _ _ _ validates =>
    have kept : Coherent { session with settings, revision } := coherent
    exact validates.confined kept confined
  | stopped => exact fun uri known => confined uri (Schedule.generation?_cancelAll sound known)
  | _ => exact confined

theorem Coherent.frame (coherent : Coherent session) (handles : after.handles = session.handles)
    (documents : after.documents = session.documents) : Coherent after :=
  have tracks : Tracks (fun _ _ _ => True) session := coherent
  tracks.frame handles documents fun _ _ => id

structure Tidy (session : Session (Ledger W)) : Prop where
  owns : Shares Owns session
  coherent : Coherent session
  sound : Schedule.Sound session.checks
  confined : Confined session

theorem Tidy.create (python : String) (settings : Settings) (world : W) :
    Tidy (.create python settings (.fresh world)) := by
  refine ⟨.fresh world, fun uri handle _ cached => ?_, .empty, fun uri known => ?_⟩
  · cases cached
  · cases known

theorem connect_world (surroundings : Surroundings W) (params : InitializeParams)
    (session : Session W) :
    Ensures (connect surroundings params) session fun _ after =>
      ∃ venv root, after.world = (surroundings.launcher.launch venv root session.world).2 := by
  apply ensures_modify
  apply ensures_get
  split
  next result world launched =>
    apply ensures_set
    have reached : world = (surroundings.launcher.launch params.venv
        (Workspace.ofOffer params.offer).root session.world).2 := by rw [launched]
    cases result with
    | error reason => exact ensures_fail ⟨_, _, reached⟩
    | ok environment => exact ⟨_, _, reached⟩

theorem Tidy.connect {launcher : Launcher W} {session : Session (Ledger W)} (tidy : Tidy session)
    (host : Host) (params : InitializeParams) :
    Tidy ((handler { launcher := launcher.recorded, host }).connect params session).state := by
  obtain ⟨result, after, ⟨⟨documents, handles, checks, -⟩, venv, root, world⟩, performed⟩ :=
    perform_ensures ((connect_ensures { launcher := launcher.recorded, host } params session).both
      (connect_world { launcher := launcher.recorded, host } params session))
  simp only [handler, performed]
  refine ⟨?_, ?_, ?_, ?_⟩
  · show Owns after.handles after.world
    rw [handles, world]
    exact Owns.same tidy.owns rfl rfl
  · exact tidy.coherent.frame handles documents
  · exact checks ▸ tidy.sound
  · show ∀ uri, (after.checks.generation? uri).isSome = true →
      (after.documents.find? uri).isSome = true
    rw [checks, documents]
    exact tidy.confined

theorem lifetime_tidy (launcher : Launcher W) (python : String) (settings : Settings) (world : W)
    (calls : List SessionCall) :
    Tidy ((create python settings (.fresh world)).lifetime launcher.recorded calls).session := by
  apply lifetime_invariant Tidy _ _ _ (.create python settings world) calls
  next => exact fun session host params tidy => tidy.connect host params
  next =>
    intro session message ok after tidy delivers
    have owns := delivers.shares (fun _ _ _ move => move.owns)
      (fun _ _ owns => Owns.clear owns) tidy.owns
    have coherent : Coherent after := delivers.tracks (remembers_nothing _) tidy.coherent
    exact ⟨owns, coherent.frame rfl rfl, delivers.schedule.sound tidy.sound,
      delivers.confined tidy.coherent tidy.sound tidy.confined⟩
  next =>
    intro session uri generation pending run tidy
    refine ⟨tidy.owns, tidy.coherent.frame rfl rfl,
      tidy.sound.finish uri generation, fun key known => tidy.confined key ?_⟩
    have same := (Schedule.markFinished_generations session.checks uri generation).1
    rwa [endCheck, Schedule.generation?, same] at known

end Session

open Session ScriptCall

-- At every moment the live scripts of the engine are those in the cache, one for each document in
-- it. Only a live script is ever asked or released, and none is released twice. The three tables
-- hold open documents alone; a document that closes leaves all of them.
theorem cache_owns_engine_sessions (launcher : Launcher W) (python : String) (settings : Settings)
    (world : W) (calls : List SessionCall) :
    let situation := (create python settings (.fresh world)).lifetime launcher.recorded calls
    let session := situation.session
    let used := session.world.calls
    (∀ script, Live used script ↔
      ∃ uri handle, session.handles.find? uri = some handle ∧ handle.script = script) ∧
    session.handles.handles.keys.Nodup ∧
    (∀ uri other handle held, session.handles.find? uri = some handle →
      session.handles.find? other = some held → handle.script = held.script → uri = other) ∧
    (∀ script, used.count (.released script) ≤ 1) ∧
    (∀ before script later, used = before ++ .asked script :: later → Live before script) ∧
    (∀ before script later, used = before ++ .released script :: later → Live before script) ∧
    (∀ uri, (session.handles.find? uri).isSome = true ∨
        (session.checks.tasks.find? uri).isSome = true ∨
        (session.checks.generation? uri).isSome = true →
      (session.documents.find? uri).isSome = true) ∧
    ∀ host uri,
      let closed := (situation.advance launcher.recorded
        (.message host (.notice (.didClose uri)))).state.session
      closed.handles.find? uri = none ∧ closed.checks.tasks.find? uri = none ∧
        closed.checks.generation? uri = none := by
  intro situation session used
  have tidy : Tidy session := lifetime_tidy launcher python settings world calls
  have disciplined : Disciplined used := tidy.owns.kept.disciplined
  refine ⟨tidy.owns.held, tidy.owns.keys, tidy.owns.apart, fun _ => disciplined.count_released,
    fun before script later same => disciplined before _ later same,
    fun before script later same => disciplined before _ later same, ?_, ?_⟩
  next =>
    rintro uri (cached | listed | known)
    · obtain ⟨handle, cached⟩ := Option.isSome_iff_exists.mp cached
      obtain ⟨document, found, -⟩ := tidy.coherent uri handle trivial cached
      simp [found]
    · obtain ⟨task, listed⟩ := Option.isSome_iff_exists.mp listed
      have current := tidy.sound.current _ (Table.mem_of_lookup listed)
      exact tidy.confined uri (by simp [current])
    · exact tidy.confined uri known
  next =>
    intro host uri closed
    refine ⟨?_, ?_, ?_⟩
    · exact (find?_evict _ _ uri uri _).trans (if_pos rfl)
    · exact (Table.find?_erase _ uri uri).trans (if_pos rfl)
    · exact (Schedule.generation?_forget _ uri uri).trans (if_pos rfl)

namespace CannedEngine

def withOneSession : Situation (Ledger CannedEngine) :=
  (create "python3" .default (.fresh silent)).lifetime launcher.recorded
    [.connect .bare .bare, .event (.message .bare (.notice (.didOpen newDocument)))]

end CannedEngine

open CannedEngine in
theorem cache_owns_session_of_new_document :
    ∃ uri handle document, withOneSession.session.handles.find? uri = some handle ∧
      handle.script = 0 ∧ withOneSession.session.documents.find? uri = some document := by
  obtain ⟨held, -, -, -, -, -, isOpen, -⟩ := cache_owns_engine_sessions launcher "python3" .default
    silent [.connect .bare .bare, .event (.message .bare (.notice (.didOpen newDocument)))]
  have live : Live withOneSession.session.world.calls 0 := by decide
  obtain ⟨uri, handle, cached, script⟩ := (held 0).mp live
  obtain ⟨document, found⟩ := Option.isSome_iff_exists.mp (isOpen uri (.inl (by rw [cached]; rfl)))
  exact ⟨uri, handle, document, cached, script, found⟩

end PythonAssist
