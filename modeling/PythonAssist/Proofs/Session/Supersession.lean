import PythonAssist.Proofs.Session.Confinement
import PythonAssist.Proofs.Session.Interleaving

set_option autoImplicit false

namespace PythonAssist

variable {W A : Type}

open Session Schedule
open Situation (launched mem_launched outcome_publishes_nothing)

inductive Turn where
  | connect (host : Host) (params : InitializeParams)
  | message (host : Host) (message : EditorMessage)
  | proceed (host : Host)
  | ended (flight : Flight) (run : CheckerRun)

inductive Occurrence where
  | announced (uri : Uri) (notices : List ClientNotice)
  | renewed (uri : Uri) (begun : List Flight)
  | ended (flight : Flight) (notices : List ClientNotice)
  deriving DecidableEq

namespace Occurrence

variable {past : List Occurrence} {flight : Flight} {occurrence : Occurrence}

def notices : Occurrence → List ClientNotice
  | .announced _ notices => notices
  | .renewed _ _ => []
  | .ended _ notices => notices

def Begun (past : List Occurrence) (flight : Flight) : Prop :=
  ∃ begun, .renewed flight.uri begun ∈ past ∧ flight ∈ begun

def Replaced (past : List Occurrence) (flight : Flight) : Prop :=
  ∃ before begun after, past = before ++ .renewed flight.uri begun :: after ∧ Begun before flight

theorem begun_snoc :
    Begun (past ++ [occurrence]) flight ↔ Begun past flight ∨
      ∃ begun, occurrence = .renewed flight.uri begun ∧ flight ∈ begun := by
  simp [Begun, or_and_right, exists_or, eq_comm]

theorem replaced_snoc (replaced : Replaced (past ++ [occurrence]) flight) :
    Replaced past flight ∨ Begun past flight ∧ ∃ begun, occurrence = .renewed flight.uri begun := by
  obtain ⟨before, begun, after, cut, earlier⟩ := replaced
  rcases snoc_cut cut with ⟨rfl, same, -⟩ | ⟨front, rfl, -⟩
  · exact .inr ⟨earlier, begun, same⟩
  · exact .inl ⟨before, begun, front, rfl, earlier⟩

theorem Replaced.begun (replaced : Replaced past flight) : Begun past flight := by
  obtain ⟨before, begun, after, rfl, now, member, inside⟩ := replaced
  exact ⟨now, List.mem_append_left _ member, inside⟩

def Fits (past : List Occurrence) : Occurrence → Prop
  | .announced uri notices => ∃ found version, notices = [.publishDiagnostics uri found version]
  | .renewed _ _ => True
  | .ended flight notices =>
    ∀ uri found version, .publishDiagnostics uri found version ∈ notices →
      uri = flight.uri ∧ Begun past flight ∧ ¬ Replaced past flight

end Occurrence

namespace Moment

section Life

variable (launcher : Launcher W)

def turn (moment : Moment W) : Turn → Outcome (Moment W) Unit
  | .connect host params =>
    if moment.stage.isIdle then ((handler { launcher, host }).connect params moment).discard
    else moment.stay
  | .message host message =>
    if moment.stage.isIdle && moment.session.environment.isSome then
      (handler { launcher, host }).deliver message moment
    else moment.stay
  | .proceed host => moment.proceed { launcher, host }
  | .ended flight run => moment.finish flight run

def note (moment : Moment W) (turn : Turn) (outcome : Outcome (Moment W) Unit) :
    Option Occurrence :=
  match turn, moment.stage with
  | .proceed _, .inspected uri _ _ => some (.announced uri outcome.notices)
  | .proceed _, .announced uri _ _ =>
    some (.renewed uri (launched moment.session.checks.last outcome.state.session.checks))
  | .ended flight _, _ =>
    if flight ∈ moment.flights then some (.ended flight outcome.notices) else none
  | _, _ => none

def noted (moment : Moment W) (turn : Turn) : Option Occurrence :=
  moment.note turn (moment.turn launcher turn)

def log : Moment W → List Turn → List Occurrence
  | _, [] => []
  | moment, turn :: rest =>
    (moment.noted launcher turn).toList ++ log (moment.turn launcher turn).state rest

def sent : Moment W → List Turn → List ClientNotice
  | _, [] => []
  | moment, turn :: rest =>
    (moment.turn launcher turn).notices ++ sent (moment.turn launcher turn).state rest

end Life

end Moment

open Occurrence

def Stage.Own : Stage → Prop
  | .due _ => True
  | .inspected uri found _ => found.handle.uri = uri
  | .announced uri found _ => found.handle.uri = uri

structure Chronicle (past : List Occurrence) (moment : Moment W) : Prop where
  coherent : Coherent moment.session
  sound : Sound moment.session.checks
  own : moment.stage.Own
  begun : ∀ flight ∈ moment.flights, Begun past flight
  bounded : ∀ flight, Begun past flight → flight.generation ≤ moment.session.checks.last
  outdated : ∀ flight, Replaced past flight →
    moment.session.checks.generation? flight.uri ≠ some flight.generation

namespace Chronicle

variable {past : List Occurrence} {moment : Moment W} {session : Session W}

theorem frame (chronicle : Chronicle past moment) {flights : List Flight} {stage : Stage}
    (coherent : Coherent session) (schedule : Runs moment.session.checks session.checks)
    (own : stage.Own) (fewer : ∀ flight ∈ flights, flight ∈ moment.flights) :
    Chronicle past { session, flights, stage } where
  coherent := coherent
  sound := schedule.sound chronicle.sound
  own := own
  begun flight member := chronicle.begun flight (fewer flight member)
  bounded flight begun := Nat.le_trans (chronicle.bounded flight begun) schedule.advances.last
  outdated flight replaced current :=
    chronicle.outdated flight replaced
      (schedule.advances.generation _ _ current (chronicle.bounded flight replaced.begun))

theorem extend (chronicle : Chronicle past moment) {occurrence : Occurrence}
    (other : ∀ uri begun, occurrence ≠ .renewed uri begun) :
    Chronicle (past ++ [occurrence]) moment := by
  have before {flight : Flight} (begun : Begun (past ++ [occurrence]) flight) :
      Begun past flight := by
    refine (begun_snoc.mp begun).resolve_right ?_
    rintro ⟨begun, same, -⟩
    exact other _ _ same
  refine ⟨chronicle.coherent, chronicle.sound, chronicle.own,
    fun flight member => begun_snoc.mpr (.inl (chronicle.begun flight member)),
    fun flight begun => chronicle.bounded flight (before begun), fun flight replaced => ?_⟩
  rcases replaced_snoc replaced with earlier | ⟨-, begun, same⟩
  · exact chronicle.outdated flight earlier
  · exact absurd same (other _ _)

theorem renew (chronicle : Chronicle past moment) {uri : Uri} {begun : List Flight}
    {stage : Stage} (coherent : Coherent session)
    (schedule : Runs moment.session.checks session.checks)
    (supersedes : Supersedes uri moment.session.checks session.checks) (own : stage.Own)
    (new : ∀ flight ∈ begun, flight.uri = uri ∧ flight.generation ≤ session.checks.last) :
    Chronicle (past ++ [.renewed uri begun])
      { session, flights := moment.flights ++ begun, stage } := by
  have last := schedule.advances.last
  refine ⟨coherent, schedule.sound chronicle.sound, own, fun flight member => ?_,
    fun flight known => ?_, fun flight replaced current => ?_⟩
  · rcases List.mem_append.mp member with before | now
    · exact begun_snoc.mpr (.inl (chronicle.begun flight before))
    · exact begun_snoc.mpr (.inr ⟨begun, by rw [(new flight now).1], now⟩)
  · rcases begun_snoc.mp known with before | ⟨_, same, now⟩
    · exact Nat.le_trans (chronicle.bounded flight before) last
    · cases same
      exact (new flight now).2
  · rcases replaced_snoc replaced with earlier | ⟨before, _, same⟩
    · exact chronicle.outdated flight earlier
        (schedule.advances.generation _ _ current (chronicle.bounded flight earlier.begun))
    · cases same
      exact absurd (chronicle.bounded flight before) (Nat.not_le_of_lt (supersedes _ current))

end Chronicle

structure Goes (past : List Occurrence) (outcome : Outcome (Moment W) Unit)
    (noted : Option Occurrence) : Prop where
  sent : outcome.notices = noted.toList.flatMap Occurrence.notices
  fits : ∀ occurrence ∈ noted, Fits past occurrence
  kept : Chronicle (past ++ noted.toList) outcome.state

theorem mem_launched_renews {uri : Uri} {found : Inspection} {session after : Session W}
    (sound : Sound session.checks) (own : found.handle.uri = uri)
    (renews : Renews uri found session after) {flight : Flight}
    (member : flight ∈ launched session.checks.last after.checks) :
    flight.uri = uri ∧ flight.generation ≤ after.checks.last := by
  cases renews with
  | cancelled =>
    rw [Moment.launched_cancel sound] at member
    cases member
  | began pending typeConfigs =>
    rw [Moment.launched_start sound] at member
    obtain rfl := List.mem_singleton.mp member
    exact ⟨own, Nat.le_refl _⟩

namespace Goes

variable {past : List Occurrence} {moment : Moment W} {launcher : Launcher W}

theorem silently {outcome : Outcome (Moment W) Unit} (nothing : outcome.notices = [])
    (kept : Chronicle past outcome.state) : Goes past outcome none :=
  ⟨nothing, fun _ member => (nomatch member), by simpa using kept⟩

theorem stay (chronicle : Chronicle past moment) : Goes past moment.stay none :=
  silently (by simp [Moment.stay, Moment.leave]) chronicle

theorem connect (chronicle : Chronicle past moment) (host : Host) (params : InitializeParams) :
    Goes past ((Moment.handler { launcher, host }).connect params moment).discard none := by
  obtain ⟨result, after, ⟨documents, handles, checks, notices, -⟩, performed⟩ :=
    perform_ensures (connect_ensures { launcher, host } params moment.quiet)
  simp only [Moment.handler, Session.handler, performed, Moment.lift, Outcome.discard]
  have coherent : Coherent { after with notices := [] } :=
    chronicle.coherent.frame handles documents
  exact silently notices (chronicle.frame coherent (checks ▸ .refl _) chronicle.own
    fun _ member => member)

theorem message (chronicle : Chronicle past moment)
    (connected : moment.session.environment.isSome = true) (host : Host)
    (message : EditorMessage) :
    Goes past ((Moment.handler { launcher, host }).deliver message moment) none := by
  have coherent : Coherent moment.quiet := chronicle.coherent.frame rfl rfl
  have started : moment.quiet.environment.isSome = true := connected
  have prepares := prepare_prepares { launcher, host } started coherent message
  have quiet : Coherent
      { (prepare { launcher, host } moment.quiet message).1 with notices := [] } :=
    prepares.coherent.frame rfl rfl
  cases message with
  | query query =>
    exact silently prepares.notices (chronicle.frame quiet prepares.schedule chronicle.own
      fun _ member => member)
  | notice notice =>
    exact silently prepares.notices (chronicle.frame prepares.coherent prepares.schedule trivial
      fun _ member => member)
  | shutdown =>
    exact silently prepares.notices (chronicle.frame quiet prepares.schedule chronicle.own
      fun _ member => member)

theorem proceed (chronicle : Chronicle past moment) (host : Host)
    {outcome : Outcome (Moment W) Unit}
    (proceeds : Moment.Proceeds { launcher, host } moment outcome) :
    Goes past outcome (moment.note (.proceed host) outcome) := by
  have silent {uri : Uri} {after : Session W}
      (moves : Moves launcher.engine uri moment.session after) :
      after.notices.drop moment.session.notices.length = [] := by
    simp [moves.keeps.notices]
  cases proceeds with
  | idle stage =>
    simp only [Moment.note, stage]
    exact stay chronicle
  | failed uri rest after stage moves =>
    simp only [Moment.note, stage]
    exact silently (silent moves) (chronicle.frame (moves.coherent chronicle.coherent)
      (moves.keeps.checks ▸ .refl _) trivial fun _ member => member)
  | inspected uri rest found after stage moves cached =>
    have coherent : Coherent after := moves.coherent chronicle.coherent
    simp only [Moment.note, stage]
    exact silently (silent moves) (chronicle.frame coherent
      (moves.keeps.checks ▸ .refl _) (coherent.handle_uri cached) fun _ member => member)
  | announced uri found rest stage =>
    have own : found.handle.uri = uri := by
      have own := chronicle.own
      rwa [stage] at own
    have sent : (((announce found).run moment.session).2.notices.drop
        moment.session.notices.length) =
          [.publishDiagnostics uri found.validation.diagnostics found.handle.version] := by
      subst own
      exact List.drop_left
    simp only [Moment.note, stage, Moment.leave, sent]
    refine ⟨rfl, ?_, ?_⟩
    · rintro _ ⟨⟩
      exact ⟨_, _, rfl⟩
    · refine Chronicle.extend ?_ (by rintro _ _ ⟨⟩)
      exact chronicle.frame (chronicle.coherent.frame rfl rfl) (.refl _) own fun _ member => member
  | renewed uri found rest after stage renews =>
    have own : found.handle.uri = uri := by
      have own := chronicle.own
      rwa [stage] at own
    obtain ⟨coherent, runs, supersedes⟩ := renews.keeps own chronicle.coherent
    simp only [Moment.note, stage]
    refine ⟨by simp [Moment.leave, renews.notices, Occurrence.notices], ?_, ?_⟩
    · rintro _ ⟨⟩
      trivial
    · exact chronicle.renew coherent runs supersedes trivial fun flight member =>
        mem_launched_renews chronicle.sound own renews member

theorem fits_ended (chronicle : Chronicle past moment) {flight : Flight} (run : CheckerRun)
    (inFlight : flight ∈ moment.flights) :
    Fits past (.ended flight (moment.finish flight run).notices) := by
  intro uri found version published
  simp only [Moment.finish, if_pos inFlight, Moment.leave, endCheck, List.append_assoc,
    List.drop_left] at published
  rcases List.mem_append.mp published with complaint | result
  next => exact absurd complaint (outcome_publishes_nothing _ _ _ _ _)
  split at result
  next current =>
    simp only [List.mem_singleton, ClientNotice.publishDiagnostics.injEq] at result
    have isCurrent : moment.session.checks.generation? flight.uri = some flight.generation := by
      simpa [isCurrent] using current
    exact ⟨result.1, chronicle.begun flight inFlight,
      fun replaced => chronicle.outdated flight replaced isCurrent⟩
  next => cases result

theorem finish (chronicle : Chronicle past moment) (flight : Flight) (run : CheckerRun) :
    Goes past (moment.finish flight run)
      (moment.note (.ended flight run) (moment.finish flight run)) := by
  by_cases inFlight : flight ∈ moment.flights
  next =>
    have fits := fits_ended chronicle run inFlight
    simp only [Moment.note, if_pos inFlight]
    have ended : moment.finish flight run =
        moment.leave (moment.session.endCheck flight.uri flight.generation flight.pending run)
          (moment.flights.erase flight) moment.stage := if_pos inFlight
    refine ⟨by simp [Occurrence.notices], ?_, Chronicle.extend ?_ fun _ _ same => nomatch same⟩
    · rintro _ ⟨⟩
      exact fits
    · rw [ended]
      exact chronicle.frame (chronicle.coherent.frame rfl rfl)
        (Step.finish _ flight.uri flight.generation).runs chronicle.own
        fun other member => List.mem_of_mem_erase member
  next =>
    simp only [Moment.note, if_neg inFlight, Moment.finish]
    exact stay chronicle

theorem turn (chronicle : Chronicle past moment) (turn : Turn) :
    Goes past (moment.turn launcher turn) (moment.noted launcher turn) := by
  cases turn with
  | connect host params =>
    have unnoted : moment.noted launcher (.connect host params) = none := by
      unfold Moment.noted Moment.note
      rfl
    rw [unnoted, Moment.turn]
    split
    · exact connect chronicle host params
    · exact stay chronicle
  | message host message =>
    have unnoted : moment.noted launcher (.message host message) = none := by
      unfold Moment.noted Moment.note
      rfl
    rw [unnoted, Moment.turn]
    split
    next ready => exact Goes.message chronicle (Bool.and_eq_true_iff.mp ready).2 host message
    next => exact stay chronicle
  | proceed host => exact proceed chronicle host (Moment.proceed_proceeds _ moment)
  | ended flight run => exact finish chronicle flight run

end Goes

theorem log_fits {past : List Occurrence} {moment : Moment W} (launcher : Launcher W)
    (chronicle : Chronicle past moment) (turns : List Turn) :
    moment.sent launcher turns = (moment.log launcher turns).flatMap Occurrence.notices ∧
      ∀ before occurrence after, moment.log launcher turns = before ++ occurrence :: after →
        Fits (past ++ before) occurrence := by
  induction turns generalizing past moment with
  | nil =>
    refine ⟨rfl, fun before occurrence after cut => ?_⟩
    simp [Moment.log] at cut
  | cons turn rest ih =>
    have goes : Goes past _ (moment.noted launcher turn) := Goes.turn chronicle turn
    obtain ⟨sent, fits⟩ := ih goes.kept
    refine ⟨?_, fun before occurrence after cut => ?_⟩
    · rw [Moment.sent, Moment.log, List.flatMap_append, goes.sent, sent]
    unfold Moment.log at cut
    cases noted : moment.noted launcher turn with
    | none =>
      simp only [noted, Option.toList_none, List.nil_append, List.append_nil] at cut fits
      exact fits before occurrence after cut
    | some first =>
      simp only [noted, Option.toList_some, List.singleton_append] at cut fits
      cases before with
      | nil =>
        obtain ⟨rfl, -⟩ := List.cons.inj cut
        rw [List.append_nil]
        exact goes.fits _ noted
      | cons _ before =>
        obtain ⟨rfl, later⟩ := List.cons.inj cut
        have fit := fits before occurrence after later
        rwa [List.append_assoc] at fit

theorem created_chronicle (python : String) (settings : Settings) (world : W) :
    Chronicle [] (Moment.start (.create python settings world)) where
  coherent uri handle _ cached := nomatch cached
  sound := .empty
  own := trivial
  begun flight member := nomatch member
  bounded flight begun := by
    obtain ⟨_, member, -⟩ := begun
    cases member
  outdated flight replaced := by
    obtain ⟨_, member, -⟩ := replaced.begun
    cases member

def Unpublished (uri : Uri) (notices : List ClientNotice) : Prop :=
  ∀ found version, .publishDiagnostics uri found version ∉ notices

def Renewed (uri : Uri) (occurrences : List Occurrence) : Prop :=
  ∃ begun, .renewed uri begun ∈ occurrences

def EndsBehind (log before between : List Occurrence) (uri : Uri) (flight : Flight)
    (published : List ClientNotice) : Prop :=
  ∃ said after,
    log = before ++ .announced uri said :: (between ++ .ended flight published :: after)

def NewerPrevails (log : List Occurrence) : Prop :=
  ∀ before between uri flight published, EndsBehind log before between uri flight published →
    Begun before flight → Unpublished uri published

def WindowsQuiet (log : List Occurrence) : Prop :=
  ∀ before between uri flight published, EndsBehind log before between uri flight published →
    ¬ Renewed uri between → Unpublished uri published

section Windows

variable {log before between : List Occurrence} {uri : Uri} {flight : Flight}
  {published : List ClientNotice}

theorem EndsBehind.fits
    (fits : ∀ before occurrence after, log = before ++ occurrence :: after →
      Fits before occurrence)
    (behind : EndsBehind log before between uri flight published) :
    ∃ said, Fits (before ++ .announced uri said :: between) (.ended flight published) := by
  obtain ⟨said, after, cut⟩ := behind
  exact ⟨said, fits _ _ after (by simpa using cut)⟩

theorem EndsBehind.unpublished
    (fits : ∀ before occurrence after, log = before ++ occurrence :: after →
      Fits before occurrence)
    (behind : EndsBehind log before between uri flight published) (begun : Begun before flight)
    (renewed : Renewed uri between) : Unpublished uri published := by
  intro found version member
  obtain ⟨said, fit⟩ := behind.fits fits
  obtain ⟨rfl, -, current⟩ := fit uri found version member
  obtain ⟨new, inside⟩ := renewed
  obtain ⟨front, back, rfl⟩ := List.append_of_mem inside
  obtain ⟨first, known, own⟩ := begun
  exact current ⟨before ++ .announced flight.uri said :: front, new, back, by simp,
    first, List.mem_append_left _ known, own⟩

theorem EndsBehind.begun
    (fits : ∀ before occurrence after, log = before ++ occurrence :: after →
      Fits before occurrence)
    (behind : EndsBehind log before between uri flight published)
    (unrenewed : ¬ Renewed uri between) {found : List Diagnostic} {version : Int}
    (member : .publishDiagnostics uri found version ∈ published) : Begun before flight := by
  obtain ⟨said, fit⟩ := behind.fits fits
  obtain ⟨rfl, ⟨begun, known, own⟩, -⟩ := fit uri found version member
  rcases List.mem_append.mp known with earlier | inside
  · exact ⟨begun, earlier, own⟩
  · rcases List.mem_cons.mp inside with same | late
    · cases same
    · exact absurd ⟨begun, late⟩ unrenewed

end Windows

-- Whatever happens in the life of a session, and on whichever thread, a pass that has come to its
-- end prevails over those before it. It prevails from its announcement on just if no check
-- publishes for the document before the pass comes to its end.
theorem newer_pass_prevails_iff (launcher : Launcher W) (python : String) (settings : Settings)
    (world : W) (turns : List Turn) :
    let created := Moment.start (.create python settings world)
    let log := created.log launcher turns
    created.sent launcher turns = log.flatMap Occurrence.notices ∧
    (∀ before between uri flight published, EndsBehind log before between uri flight published →
      Begun before flight → Renewed uri between → Unpublished uri published) ∧
    (NewerPrevails log ↔ WindowsQuiet log) := by
  intro created log
  obtain ⟨sent, fits⟩ := log_fits launcher (created_chronicle python settings world) turns
  refine ⟨sent, fun _ _ _ _ _ behind => behind.unpublished fits, ?_, ?_⟩
  · intro prevails before between uri flight published behind unrenewed found version member
    exact prevails before between uri flight published behind
      (behind.begun fits unrenewed member) found version member
  · intro quiet before between uri flight published behind begun
    by_cases renewed : Renewed uri between
    · exact behind.unpublished fits begun renewed
    · exact quiet before between uri flight published behind renewed

namespace CannedEngine

-- A document is opened, and the pass over it begins a type check. The document is saved, and the
-- pass over it has announced what it has found when the check ends.
def overtaking : List Turn :=
  [.connect .bare .bare, .message .bare (opening 1 "x = 1\n"),
    .proceed .bare, .proceed .bare, .proceed .bare,
    .message .bare (.notice (.didSave app none)), .proceed .bare, .proceed .bare,
    .ended (checkOf 1 1 "x = 1\n") (.finished [] [])]

def overtaken : Moment CannedEngine :=
  .start (.create "python3" { Settings.default with typeCheck := true } silent)

end CannedEngine

open CannedEngine in
theorem overtaken_check_publishes : ¬ NewerPrevails (overtaken.log launcher overtaking) := by
  let check := checkOf 1 1 "x = 1\n"
  have log : overtaken.log launcher overtaking =
      [.announced app [.publishDiagnostics app [] 1], .renewed app [check],
        .announced app [.publishDiagnostics app [] 1],
        .ended check [.publishDiagnostics app [] 1]] := by
    decide +kernel
  intro prevails
  have begun : Begun [.announced app [.publishDiagnostics app [] 1], .renewed app [check]] check :=
    ⟨[check], by simp [check, checkOf], by simp⟩
  exact prevails _ [] app check _ ⟨_, [], log⟩ begun [] 1 (by simp)

end PythonAssist
