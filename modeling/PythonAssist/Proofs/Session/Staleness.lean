import PythonAssist.Proofs.Schedule.Generations
import PythonAssist.Proofs.Session.Handles

set_option autoImplicit false

namespace PythonAssist

variable {W : Type}

def PendingCheck.text (pending : PendingCheck) : String := String.join pending.check.lines

def PendingCheck.Describes (pending : PendingCheck) (document : Document) : Prop :=
  pending.text = document.text ∧ pending.version = document.version

-- What a message makes of a document if it fails. A reopened document and a save with a text
-- replace the text before the pass begins, and only the end of the pass drops an older check.
def EditorMessage.leftBehind (uri : Uri) (document : Document) : EditorMessage → Document
  | .notice (.didOpen item) => if item.uri = uri then .ofItem item else document
  | .notice (.didSave other (some text)) =>
    if other = uri then { document with text } else document
  | _ => document

namespace Situation

def leftByEvent (launcher : Launcher W) (uri : Uri) (situation : Situation W)
    (document : Document) (event : SessionEvent) : Document :=
  match event with
  | .message _ message =>
    if (situation.advance launcher event).result.isOk then document
    else message.leftBehind uri document
  | .ended _ _ => document

def leftBehind (launcher : Launcher W) (uri : Uri) :
    Situation W → Document → List SessionEvent → Document
  | _, document, [] => document
  | situation, document, event :: rest =>
    leftBehind launcher uri (situation.advance launcher event).state
      (situation.leftByEvent launcher uri document event) rest

end Situation

namespace Session

open Schedule

def Coherent (session : Session W) : Prop := Tracks (fun _ _ _ => True) session

section Passes

variable {engine : Engine W} {uri : Uri} {session after : Session W}

theorem Concludes.schedule (concludes : Concludes uri session after) :
    Runs session.checks after.checks := by
  cases concludes with
  | cancelled => exact (Step.cancel _ uri).runs
  | began handle pending => exact (Step.start _ handle.uri pending).runs

theorem Validates.schedule {ok : Bool} (validates : Validates engine uri session ok after) :
    Runs session.checks after.checks := by
  cases validates with
  | failed _ moves => exact moves.keeps.checks ▸ .refl _
  | concluded middle _ moves concludes => exact moves.keeps.checks ▸ concludes.schedule

theorem ValidatesEach.schedule {uris : List Uri}
    (validates : ValidatesEach engine uris session after) : Runs session.checks after.checks := by
  induction validates with
  | done => exact .refl _
  | next _ _ _ _ _ _ first _ ih => exact first.schedule.trans ih

theorem Delivers.schedule {message : EditorMessage} {ok : Bool}
    (delivers : Delivers engine session message ok after) : Runs session.checks after.checks := by
  cases delivers with
  | answered _ _ _ moves => exact moves.keeps.checks ▸ .refl _
  | opened _ _ _ validates => exact validates.schedule
  | changed uri _ _ _ _ _ _ moves => exact moves.keeps.checks ▸ (Step.cancel _ uri).runs
  | closed uri => exact (Step.forget _ uri).runs
  | saved _ _ _ _ validates => exact validates.schedule
  | savedText _ _ _ _ _ _ validates => exact validates.schedule
  | configured _ _ _ _ _ _ validates => exact validates.schedule
  | stopped => exact cancelAll_runs _
  | _ => exact .refl _

theorem Moves.coherent (moves : Moves engine uri session after) (coherent : Coherent session) :
    Coherent after :=
  moves.tracks (remembers_nothing engine) coherent

theorem Concludes.supersedes (concludes : Concludes uri session after)
    (coherent : Coherent session) : Supersedes uri session.checks after.checks := by
  cases concludes with
  | cancelled => exact cancel_supersedes _ _
  | began handle pending _ cached =>
    obtain ⟨_, -, mirrors, -⟩ := coherent uri handle trivial cached
    rw [mirrors.uri]
    exact start_supersedes _ _ _

theorem Validates.supersedes (validates : Validates engine uri session true after)
    (coherent : Coherent session) : Supersedes uri session.checks after.checks := by
  cases validates with
  | concluded middle _ moves concludes =>
    rw [← moves.keeps.checks]
    exact concludes.supersedes (moves.coherent coherent)

theorem dropHandle_coherent (others : TracksWhere (fun _ _ _ => True) (· ≠ uri) session) :
    Coherent (dropHandle engine uri session) :=
  dropHandle_tracks (remembers_nothing engine) others

end Passes

-- Either the schedule has dropped what it had for a document, or the document is what it was, or
-- the message failed and has left another text behind.
theorem Delivers.document {engine : Engine W} {message : EditorMessage} {ok : Bool}
    {session after : Session W} (delivers : Delivers engine session message ok after)
    (coherent : Coherent session) {uri : Uri} {document : Document} {generation : Nat}
    (isOpen : session.documents.find? uri = some document)
    (current : after.checks.generation? uri = some generation)
    (old : generation ≤ session.checks.last) :
    after.documents.find? uri =
      some (if ok then document else message.leftBehind uri document) := by
  have dropped (superseded : Supersedes uri session.checks after.checks) : False :=
    absurd (superseded generation current) (Nat.not_lt.mpr old)
  cases delivers with
  | answered query ok _ moves =>
    rw [moves.keeps.documents, isOpen]
    cases ok <;> rfl
  | opened item ok _ validates =>
    rw [validates.keeps.2]
    simp only [dropHandle, DocumentStore.find?_openItem, EditorMessage.leftBehind]
    have begun : Coherent (dropHandle engine item.uri _) :=
      dropHandle_coherent (coherent.openItem item)
    by_cases same : uri = item.uri
    next =>
      subst same
      cases ok with
      | true => exact (dropped (validates.supersedes begun)).elim
      | false => simp
    next => simp [same, Ne.symm same, isOpen]
  | changed other _ _ documents ok _ applied moves =>
    by_cases same : uri = other
    next =>
      subst same
      rw [moves.keeps.checks] at current dropped
      exact (dropped (cancel_supersedes _ uri)).elim
    next =>
      rw [moves.keeps.documents]
      simp [dropHandle, DocumentStore.change_others applied uri same, isOpen,
        EditorMessage.leftBehind]
  | closed other =>
    by_cases same : uri = other
    next =>
      subst same
      exact (dropped (forget_supersedes _ uri)).elim
    next => simp [dropHandle, DocumentStore.find?_close, same, isOpen]
  | saved other ok _ _ validates =>
    rw [validates.keeps.2, isOpen]
    cases ok <;> rfl
  | savedText other text documents ok _ applied validates =>
    obtain ⟨saved, found, others⟩ := DocumentStore.find?_save applied
    rw [validates.keeps.2]
    simp only [dropHandle, others, EditorMessage.leftBehind]
    have begun : Coherent (dropHandle engine other _) :=
      dropHandle_coherent (coherent.saveText applied)
    by_cases same : uri = other
    next =>
      subst same
      rw [isOpen] at found
      cases found
      cases ok with
      | true => exact (dropped (validates.supersedes begun)).elim
      | false => simp
    next => simp [same, Ne.symm same, isOpen]
  | notSaved other text missing =>
    have different : other ≠ uri := by
      rintro rfl
      rw [missing] at isOpen
      cases isOpen
    cases text <;> simp [EditorMessage.leftBehind, different, isOpen]
  | notConfigured payload ok => cases ok <;> exact isOpen
  | configured _ _ _ _ _ _ validates =>
    rw [validates.keeps.2]
    exact isOpen
  | notChanged => exact isOpen
  | waitedForSave => exact isOpen
  | moved => exact isOpen
  | stopped => exact isOpen

section Tasks

variable {engine : Engine W} {session after : Session W}

def Begins (session after : Session W) : Prop :=
  ∀ entry ∈ after.checks.tasks.entries, entry ∈ session.checks.tasks.entries ∨
    ∃ document, after.documents.find? entry.1 = some document ∧ entry.2.job.Describes document

theorem Concludes.begins {uri : Uri} (concludes : Concludes uri session after)
    (coherent : Coherent session) : Begins session after := by
  intro entry member
  cases concludes with
  | cancelled => exact .inl (Table.mem_erase.mp member).1
  | began handle pending _ cached lines version =>
    obtain ⟨document, found, mirrors, -⟩ := coherent uri handle trivial cached
    rcases mem_start member with before | rfl
    next => exact .inl (Table.mem_erase.mp before).1
    next =>
      refine .inr ⟨document, mirrors.uri ▸ found, ?_, version.trans mirrors.version⟩
      rw [← mirrors.text, PendingCheck.text, lines]
      rfl

theorem Validates.begins {uri : Uri} {ok : Bool} (validates : Validates engine uri session ok after)
    (coherent : Coherent session) : Begins session after := by
  intro entry member
  cases validates with
  | failed _ moves =>
    rw [moves.keeps.checks] at member
    exact .inl member
  | concluded middle _ moves concludes =>
    rw [← moves.keeps.checks]
    exact concludes.begins (moves.coherent coherent) entry member

theorem ValidatesEach.begins {uris : List Uri} (validates : ValidatesEach engine uris session after)
    (coherent : Coherent session) : Begins session after := by
  induction validates with
  | done => exact fun entry member => .inl member
  | next uri rest ok session middle after first others ih =>
    have kept := first.tracks (remembers_nothing engine) coherent
    intro entry member
    rcases ih kept entry member with before | begun
    next =>
      rcases first.begins coherent entry before with earlier | ⟨document, found, describes⟩
      · exact .inl earlier
      · exact .inr ⟨document, others.keeps.2 ▸ found, describes⟩
    next => exact .inr begun

theorem Delivers.begins {message : EditorMessage} {ok : Bool}
    (delivers : Delivers engine session message ok after) (coherent : Coherent session) :
    Begins session after := by
  intro entry member
  cases delivers with
  | answered _ _ _ moves =>
    rw [moves.keeps.checks] at member
    exact .inl member
  | opened item _ _ validates =>
    exact validates.begins (dropHandle_coherent (coherent.openItem item)) entry member
  | changed uri _ _ _ _ _ _ moves =>
    rw [moves.keeps.checks] at member
    exact .inl (Table.mem_erase.mp member).1
  | closed uri => exact .inl (Table.mem_erase.mp member).1
  | saved _ _ _ _ validates => exact validates.begins coherent entry member
  | savedText _ _ _ _ _ applied validates =>
    exact validates.begins (dropHandle_coherent (coherent.saveText applied)) entry member
  | configured _ settings revision _ _ _ validates =>
    have kept : Coherent { session with settings, revision } := coherent
    exact validates.begins kept entry member
  | stopped => exact .inl (mem_cancelAll member)
  | _ => exact .inl member

end Tasks

theorem reachable_coherent {launcher : Launcher W} {situation : Situation W}
    (reachable : Reachable launcher situation) :
    Settled situation.session ∧ Coherent situation.session :=
  reachable_tracks (remembers_nothing launcher.engine) reachable

theorem reachable_sound {launcher : Launcher W} {situation : Situation W}
    (reachable : Reachable launcher situation) : Sound situation.session.checks := by
  refine (reachable_invariant (fun session => Sound session.checks) ?_ ?_ ?_ reachable).2
  next => exact fun session blank => blank.checks ▸ Sound.empty
  next => exact fun session message ok after _ sound delivers => delivers.schedule.sound sound
  next => exact fun session uri generation pending run sound => sound.finish uri generation

end Session

namespace Situation

open Schedule Session

variable {launcher : Launcher W}

theorem mem_launched {last : Nat} {checks : Schedule PendingCheck} {flight : Flight}
    (member : flight ∈ launched last checks) :
    ∃ task, (flight.uri, task) ∈ checks.tasks.entries ∧ last < task.generation ∧
      flight.generation = task.generation ∧ flight.pending = task.job := by
  obtain ⟨⟨uri, task⟩, listed, found⟩ := List.mem_filterMap.mp member
  dsimp only at found
  split at found
  next late =>
    cases found
    exact ⟨task, listed, late, rfl, rfl⟩
  next => cases found

theorem advance_schedule {situation : Situation W} (reachable : Reachable launcher situation)
    (event : SessionEvent) :
    Runs situation.session.checks (situation.advance launcher event).state.session.checks := by
  cases event with
  | message host message =>
    obtain ⟨after, delivers, -, state⟩ := deliver_delivers { launcher, host } message
      situation.session (reachable_coherent reachable).1.connected
    simp only [advance, state]
    exact delivers.schedule
  | ended flight run =>
    unfold advance
    dsimp only
    split
    · exact (Step.finish _ flight.uri flight.generation).runs
    · exact .refl _

theorem run_schedule {situation : Situation W} (reachable : Reachable launcher situation)
    (events : List SessionEvent) :
    Runs situation.session.checks (situation.run launcher events).session.checks := by
  induction events generalizing situation with
  | nil => exact .refl _
  | cons event rest ih =>
    exact (advance_schedule reachable event).trans (ih (.advanced situation event reachable))

theorem advance_document {situation : Situation W} (reachable : Reachable launcher situation)
    (event : SessionEvent) {uri : Uri} {document : Document} {generation : Nat}
    (isOpen : situation.session.documents.find? uri = some document)
    (old : generation ≤ situation.session.checks.last)
    (current : (situation.advance launcher event).state.session.checks.generation? uri =
      some generation) :
    (situation.advance launcher event).state.session.documents.find? uri =
      some (situation.leftByEvent launcher uri document event) := by
  obtain ⟨settled, coherent⟩ := reachable_coherent reachable
  cases event with
  | message host message =>
    obtain ⟨after, delivers, -, state⟩ :=
      deliver_delivers { launcher, host } message situation.session settled.connected
    have session : (situation.advance launcher (.message host message)).state.session =
      { after with notices := [] } := state
    rw [session] at current ⊢
    exact delivers.document coherent isOpen current old
  | ended flight run =>
    unfold advance
    dsimp only
    split <;> exact isOpen

theorem run_document {situation : Situation W} (reachable : Reachable launcher situation)
    (events : List SessionEvent) {uri : Uri} {document : Document} {generation : Nat}
    (isOpen : situation.session.documents.find? uri = some document)
    (old : generation ≤ situation.session.checks.last)
    (current : (situation.run launcher events).session.checks.generation? uri =
      some generation) :
    (situation.run launcher events).session.documents.find? uri =
      some (situation.leftBehind launcher uri document events) := by
  induction events generalizing situation document with
  | nil => exact isOpen
  | cons event rest ih =>
    have advanced : Reachable launcher (situation.advance launcher event).state :=
      .advanced situation event reachable
    have later := Nat.le_trans old (advance_schedule reachable event).advances.last
    have kept := (run_schedule advanced rest).advances.generation uri generation current later
    exact ih advanced (advance_document reachable event isOpen old kept) later current

theorem run_concat (situation : Situation W) (events : List SessionEvent) (event : SessionEvent) :
    situation.run launcher (events ++ [event]) =
      ((situation.run launcher events).advance launcher event).state := by
  simp [run]

theorem flight_launched {situation : Situation W} (reachable : Reachable launcher situation)
    {flight : Flight} (member : flight ∈ situation.flights) :
    ∃ earlier host message events, Reachable launcher earlier ∧
      let begun := (earlier.advance launcher (.message host message)).state
      flight ∈ launched earlier.session.checks.last begun.session.checks ∧
        situation = begun.run launcher events := by
  induction reachable with
  | connected => cases member
  | advanced situation event before ih =>
    have extend (known : flight ∈ situation.flights) :
        ∃ earlier host message events, Reachable launcher earlier ∧
          let begun := (earlier.advance launcher (.message host message)).state
          flight ∈ launched earlier.session.checks.last begun.session.checks ∧
            (situation.advance launcher event).state = begun.run launcher events := by
      obtain ⟨earlier, host, message, events, reachable, begins, same⟩ := ih known
      refine ⟨earlier, host, message, events ++ [event], reachable, begins, ?_⟩
      rw [run_concat, ← same]
    cases event with
    | message host message =>
      rcases List.mem_append.mp member with known | new
      · exact extend known
      · exact ⟨situation, host, message, [], before, new, rfl⟩
    | ended ended run =>
      apply extend
      unfold advance at member
      dsimp only at member
      split at member
      · exact List.mem_of_mem_erase member
      · exact member

theorem launched_describes {situation : Situation W} (reachable : Reachable launcher situation)
    (host : Host) (message : EditorMessage) {flight : Flight}
    (begins : flight ∈ launched situation.session.checks.last
      (situation.advance launcher (.message host message)).state.session.checks) :
    ∃ document, (situation.advance launcher (.message host message)).state.session.documents.find?
        flight.uri = some document ∧ flight.pending.Describes document := by
  obtain ⟨settled, coherent⟩ := reachable_coherent reachable
  obtain ⟨after, delivers, -, state⟩ :=
    deliver_delivers { launcher, host } message situation.session settled.connected
  have session : (situation.advance launcher (.message host message)).state.session =
    { after with notices := [] } := state
  rw [session] at begins ⊢
  obtain ⟨task, listed, late, -, job⟩ := mem_launched begins
  rcases delivers.begins coherent _ listed with before | ⟨document, found, describes⟩
  next =>
    have sound := reachable_sound reachable
    exact absurd (sound.bounded _ _ (sound.current _ before)) (Nat.not_le.mpr late)
  next => exact ⟨document, found, job ▸ describes⟩

theorem outcome_publishes_nothing (check : TypeCheck) (run : CheckerRun) (uri : Uri)
    (diagnostics : List Diagnostic) (version : Int) :
    .publishDiagnostics uri diagnostics version ∉ (check.outcome run).2 := by
  cases run with
  | notStarted reason => simp [TypeCheck.outcome]
  | finished stdout stderr =>
    unfold TypeCheck.outcome
    dsimp only
    split <;> simp

theorem ended_publishes {situation : Situation W} (settled : Settled situation.session)
    {flight : Flight} {run : CheckerRun} {uri : Uri} {diagnostics : List Diagnostic}
    {version : Int}
    (published : .publishDiagnostics uri diagnostics version ∈
      (situation.advance launcher (.ended flight run)).notices) :
    uri = flight.uri ∧ version = flight.pending.version ∧
      situation.session.checks.generation? flight.uri = some flight.generation := by
  unfold advance at published
  dsimp only at published
  split at published
  next =>
    simp only [endCheck, settled.notices, List.nil_append] at published
    rcases List.mem_append.mp published with complaint | result
    next => exact absurd complaint (outcome_publishes_nothing _ _ _ _ _)
    next =>
      split at result
      next current =>
        simp only [List.mem_singleton, ClientNotice.publishDiagnostics.injEq] at result
        obtain ⟨rfl, -, rfl⟩ := result
        exact ⟨rfl, rfl, by simpa [isCurrent] using current⟩
      next => cases result
  next => cases published

end Situation

open Situation

-- Whatever a type check publishes, its document is open. It has the text and the version that the
-- check was scheduled with unless a message since then has failed and left others behind: a
-- document opened again or saved with a text, whose pass failed before the schedule moved on.
theorem published_check_shows_document (launcher : Launcher W) :
    (∀ situation, Reachable launcher situation → ∀ flight ∈ situation.flights,
      ∃ earlier host message events, Reachable launcher earlier ∧
        let begun := (earlier.advance launcher (.message host message)).state
        flight ∈ launched earlier.session.checks.last begun.session.checks ∧
          situation = begun.run launcher events) ∧
    ∀ situation host message flight events run uri diagnostics version,
      let begun := (situation.advance launcher (.message host message)).state
      let later := begun.run launcher events
      Reachable launcher situation →
      flight ∈ launched situation.session.checks.last begun.session.checks →
      .publishDiagnostics uri diagnostics version ∈
        (later.advance launcher (.ended flight run)).notices →
      ∃ scheduled document,
        begun.session.documents.find? uri = some scheduled ∧
        later.session.documents.find? uri = some document ∧
        flight.pending.text = scheduled.text ∧ flight.pending.version = scheduled.version ∧
        version = flight.pending.version ∧
        let left := begun.leftBehind launcher uri scheduled events
        (document.text = flight.pending.text ∧ document.version = version ↔
          left.text = scheduled.text ∧ left.version = scheduled.version) := by
  refine ⟨fun situation reachable flight member => flight_launched reachable member, ?_⟩
  intro situation host message flight events run uri diagnostics version begun later reachable
    begins published
  have begun_reachable : Reachable launcher begun := .advanced situation _ reachable
  have later_reachable : Reachable launcher later := begun_reachable.run events
  obtain ⟨rfl, rfl, current⟩ :=
    ended_publishes (Session.reachable_coherent later_reachable).1 published
  have given : flight.generation ≤ begun.session.checks.last := by
    obtain ⟨task, listed, -, generation, -⟩ := mem_launched begins
    have sound := Session.reachable_sound begun_reachable
    rw [generation]
    exact sound.bounded _ _ (sound.current _ listed)
  obtain ⟨scheduled, isOpen, text, number⟩ := launched_describes reachable host message begins
  have left := run_document begun_reachable events isOpen given current
  refine ⟨scheduled, _, isOpen, left, text, number, rfl, ?_⟩
  rw [text, number]

namespace CannedEngine

def onceOnly : Launcher CannedEngine :=
  { launch
    engine :=
      { engine with
        openScript := fun code path canned =>
          if canned.opened = 0 then openScript code path canned
          else (.error (.worker "no session"), canned) } }

def checking : Situation CannedEngine :=
  let session := Session.create "python3" { Settings.default with typeCheck := true } silent
  { session :=
      ((Session.handler { launcher := onceOnly, host := .bare }).connect .bare session).state
    flights := [] }

theorem checking_reachable : Reachable onceOnly checking :=
  .connected .bare .bare _ _ (.created _ _ _) rfl

def opening (version : Int) (text : String) : EditorMessage :=
  .notice (.didOpen { uri := ⟨"file:///app.py"⟩, languageId := "python", version, text })

def underCheck : Situation CannedEngine :=
  (checking.advance onceOnly (.message .bare (opening 1 "x = 1\n"))).state

theorem underCheck_reachable : Reachable onceOnly underCheck :=
  .advanced checking _ checking_reachable

def reopened : Situation CannedEngine :=
  (underCheck.advance onceOnly (.message .bare (opening 2 "y = 2\n"))).state

theorem reopened_reachable : Reachable onceOnly reopened :=
  .advanced underCheck _ underCheck_reachable

end CannedEngine

open CannedEngine

theorem published_check_shows_new_document :
    ∃ flight earlier document, flight ∈ underCheck.flights ∧ Reachable onceOnly earlier ∧
      underCheck.session.documents.find? flight.uri = some document ∧
      document.text = flight.pending.text ∧ document.version = flight.pending.version := by
  have published : ∃ flight ∈ launched checking.session.checks.last underCheck.session.checks,
      flight ∈ underCheck.flights ∧
      .publishDiagnostics flight.uri [] 1 ∈
        (underCheck.advance onceOnly (.ended flight (.finished [] []))).notices := by
    decide +kernel
  obtain ⟨flight, begins, underWay, notice⟩ := published
  obtain ⟨earlier, _, _, _, before, -⟩ :=
    (published_check_shows_document onceOnly).1 underCheck underCheck_reachable flight underWay
  obtain ⟨scheduled, document, isOpen, found, text, number, version, shows⟩ :=
    (published_check_shows_document onceOnly).2 checking .bare (opening 1 "x = 1\n") flight []
      (.finished [] []) flight.uri [] 1 checking_reachable begins notice
  have same := shows.mpr ⟨rfl, rfl⟩
  exact ⟨flight, earlier, document, underWay, before, found, same.1, same.2.trans version⟩

-- The document is opened again with another text, the engine refuses to open it, and the check of
-- the old text still publishes.
theorem stale_check_published :
    Reachable onceOnly reopened ∧ ∃ flight ∈ reopened.flights,
      flight.pending.text = "x = 1\n" ∧ flight.pending.version = 1 ∧
      ((reopened.session.documents.find? flight.uri).map fun document =>
        (document.text, document.version)) = some ("y = 2\n", 2) ∧
      .publishDiagnostics flight.uri [] 1 ∈
        (reopened.advance onceOnly (.ended flight (.finished [] []))).notices :=
  ⟨reopened_reachable, by decide +kernel⟩

end PythonAssist
