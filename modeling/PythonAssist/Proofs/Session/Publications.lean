import Mathlib.Data.List.Induction
import PythonAssist.Proofs.Session.Lifetime
import PythonAssist.Proofs.Session.Passes

set_option autoImplicit false

namespace PythonAssist

variable {W : Type}

namespace Activity

variable {past : List Activity} {uri : Uri}

def silences (uri : Uri) (silenced : Prop) : Activity → Prop
  | .pass other _ _ notices =>
    if other = uri then
      ∃ found version, notices = [.publishDiagnostics uri found version] ∧ SyntaxOnly found
    else silenced
  | .ended _ _ => silenced

def Silenced (uri : Uri) (past : List Activity) : Prop := past.foldl (silences uri) False

def Began (past : List Activity) (flight : Flight) : Prop :=
  ∃ begun, .pass flight.uri true begun
      [.publishDiagnostics flight.uri flight.pending.base flight.pending.version] ∈ past ∧
    flight ∈ begun ∧ Linted flight.pending.base

def Fits (past : List Activity) : Activity → Prop
  | .pass uri ok _ notices =>
    if ok then
      ∃ found version, notices = [.publishDiagnostics uri found version] ∧
        (SyntaxOnly found ∨ Linted found)
    else notices = []
  | .ended flight notices =>
    ∀ uri found version, .publishDiagnostics uri found version ∈ notices →
      uri = flight.uri ∧ version = flight.pending.version ∧ ¬ Silenced uri past ∧
        Began past flight ∧ ∃ types, found = flight.pending.base ++ types ∧
          ∀ diagnostic ∈ types, diagnostic.source = .mypy

def AllFit : List Activity → List Activity → Prop
  | _, [] => True
  | past, activity :: rest => Fits past activity ∧ AllFit (past ++ [activity]) rest

theorem allFit_append (past first second : List Activity) :
    AllFit past (first ++ second) ↔ AllFit past first ∧ AllFit (past ++ first) second := by
  induction first generalizing past with
  | nil => simp [AllFit]
  | cons activity rest ih => simp [AllFit, ih, and_assoc]

theorem AllFit.at {earlier later : List Activity} {activity : Activity}
    (fit : AllFit past (earlier ++ activity :: later)) : Fits (past ++ earlier) activity :=
  ((allFit_append past earlier _).mp fit).2.1

theorem Fits.of_pass {key : Uri} {ok : Bool} {begun : List Flight} {notices : List ClientNotice}
    (fits : Fits past (.pass key ok begun notices)) {found : List Diagnostic} {version : Int}
    (published : .publishDiagnostics uri found version ∈ notices) :
    key = uri ∧ (SyntaxOnly found ∨ Linted found) := by
  cases ok with
  | false =>
    have nothing : notices = [] := fits
    exact absurd (nothing ▸ published) List.not_mem_nil
  | true =>
    obtain ⟨list, number, rfl, shape⟩ := fits
    cases List.mem_singleton.mp published
    exact ⟨rfl, shape⟩

theorem Fits.shape {activity : Activity} (fits : Fits past activity) {found : List Diagnostic}
    {version : Int} (published : .publishDiagnostics uri found version ∈ activity.notices) :
    SyntaxOnly found ∨ ∃ linted types, found = linted ++ types ∧ Linted linted ∧
      ∀ diagnostic ∈ types, diagnostic.source = .mypy := by
  cases activity with
  | pass key ok begun notices =>
    have shape := (Fits.of_pass fits published).2
    exact shape.imp_right fun linted => ⟨found, [], by simp, linted, by simp⟩
  | ended flight notices =>
    obtain ⟨-, -, -, ⟨_, _, _, linted⟩, types, rfl, sources⟩ := fits uri found version published
    exact .inr ⟨_, types, rfl, linted, sources⟩

theorem Fits.silent {activity : Activity} (fits : Fits past activity)
    (silenced : Silenced uri past) (other : ¬ activity.IsPassOver uri) (found : List Diagnostic)
    (version : Int) : .publishDiagnostics uri found version ∉ activity.notices := by
  intro published
  cases activity with
  | pass key ok begun notices => exact other (Fits.of_pass fits published).1
  | ended flight notices => exact (fits uri found version published).2.2.1 silenced

theorem silenced_snoc (activity : Activity) :
    Silenced uri (past ++ [activity]) ↔ silences uri (Silenced uri past) activity := by
  simp [Silenced]

theorem Began.mono {flight : Flight} (began : Began past flight) (later : List Activity) :
    Began (past ++ later) flight := by
  obtain ⟨begun, member, inside⟩ := began
  exact ⟨begun, List.mem_append_left _ member, inside⟩

theorem silenced_between {earlier between : List Activity} {ok : Bool} {begun : List Flight}
    {found : List Diagnostic} {version : Int} (only : SyntaxOnly found)
    (others : ∀ activity ∈ between, ¬ activity.IsPassOver uri) :
    Silenced uri
      (earlier ++ .pass uri ok begun [.publishDiagnostics uri found version] :: between) := by
  induction between using List.reverseRecOn with
  | nil => exact (silenced_snoc _).mpr (by simpa [silences] using only)
  | append_singleton between last ih =>
    rw [← List.cons_append, ← List.append_assoc, silenced_snoc]
    have before := ih fun activity member => others activity (List.mem_append_left _ member)
    have other := others last (by simp)
    cases last with
    | pass key ok begun notices =>
      have different : ¬ key = uri := other
      simpa [silences, different] using before
    | ended flight notices => exact before

end Activity

open Activity Schedule

namespace Session

structure Accounts (past : List Activity) (flights : List Flight) (session : Session W) :
    Prop where
  coherent : Coherent session
  sound : Sound session.checks
  bounded : ∀ flight ∈ flights, flight.generation ≤ session.checks.last
  began : ∀ flight, flight ∈ flights ∨ flight ∈ listed session.checks → Began past flight
  unlisted : ∀ flight ∈ listed session.checks, ¬ Silenced flight.uri past
  outdated : ∀ flight ∈ flights, Silenced flight.uri past →
    session.checks.generation? flight.uri ≠ some flight.generation

namespace Accounts

variable {past : List Activity} {flights : List Flight} {session after : Session W}

theorem frame (accounts : Accounts past flights session) (coherent : Coherent after)
    (schedule : Runs session.checks after.checks)
    (fewer : ∀ flight ∈ listed after.checks, flight ∈ listed session.checks) :
    Accounts past flights after where
  coherent := coherent
  sound := schedule.sound accounts.sound
  bounded flight member := Nat.le_trans (accounts.bounded flight member) schedule.advances.last
  began flight known := accounts.began flight (known.imp_right (fewer flight))
  unlisted flight member := accounts.unlisted flight (fewer flight member)
  outdated flight member silenced current :=
    accounts.outdated flight member silenced
      (schedule.advances.generation _ _ current (accounts.bounded flight member))

theorem extend (accounts : Accounts past flights session) {activity : Activity}
    (silent : ∀ uri, Silenced uri (past ++ [activity]) → Silenced uri past) :
    Accounts (past ++ [activity]) flights session where
  coherent := accounts.coherent
  sound := accounts.sound
  bounded := accounts.bounded
  began flight known := (accounts.began flight known).mono _
  unlisted flight member silenced := accounts.unlisted flight member (silent _ silenced)
  outdated flight member silenced := accounts.outdated flight member (silent _ silenced)

theorem narrow (accounts : Accounts past flights session) {fewer : List Flight}
    (subset : ∀ flight ∈ fewer, flight ∈ flights) : Accounts past fewer session where
  coherent := accounts.coherent
  sound := accounts.sound
  bounded flight member := accounts.bounded flight (subset flight member)
  began flight known := accounts.began flight (known.imp_left (subset flight))
  unlisted := accounts.unlisted
  outdated flight member := accounts.outdated flight (subset flight member)

theorem succeed (accounts : Accounts past flights session) (coherent : Coherent after)
    {uri : Uri} {begun : List Flight} {found : List Diagnostic} {version : Int}
    (schedule : Runs session.checks after.checks)
    (supersedes : Supersedes uri session.checks after.checks)
    (lists : ∀ flight ∈ listed after.checks,
      flight.uri ≠ uri ∧ flight ∈ listed session.checks ∨
        flight.uri = uri ∧ flight ∈ begun ∧ flight.pending.base = found ∧
          flight.pending.version = version ∧ Linted found) :
    Accounts
      (past ++ [.pass uri true begun [.publishDiagnostics uri found version]]) flights after := by
  have earlier {key : Uri} (other : key ≠ uri)
      (silenced : Silenced key
        (past ++ [.pass uri true begun [.publishDiagnostics uri found version]])) :
      Silenced key past := by
    rw [silenced_snoc] at silenced
    simpa [silences, Ne.symm other] using silenced
  refine ⟨coherent, schedule.sound accounts.sound, fun flight member => ?_,
    fun flight known => ?_, fun flight member silenced => ?_,
    fun flight member silenced current => ?_⟩
  -- For other documents all is as before; this one has a new generation, and what is listed for it
  -- was begun just now.
  · exact Nat.le_trans (accounts.bounded flight member) schedule.advances.last
  · rcases known with before | now
    · exact (accounts.began flight (.inl before)).mono _
    rcases lists flight now with ⟨-, before⟩ | ⟨rfl, own, rfl, rfl, linted⟩
    · exact (accounts.began flight (.inr before)).mono _
    · exact ⟨begun, by simp, own, linted⟩
  · rcases lists flight member with ⟨other, before⟩ | ⟨rfl, -, -, -, linted⟩
    · exact accounts.unlisted flight before (earlier other silenced)
    · rw [silenced_snoc] at silenced
      simp only [silences, if_true] at silenced
      obtain ⟨_, _, same, only⟩ := silenced
      cases same
      exact linted.not_syntaxOnly only
  · by_cases own : flight.uri = uri
    · have newer := supersedes flight.generation (own ▸ current)
      exact absurd (accounts.bounded flight member) (Nat.not_le_of_lt newer)
    · have before := schedule.advances.generation _ _ current (accounts.bounded flight member)
      exact accounts.outdated flight member (earlier own silenced) before

end Accounts

section Steps

variable {past : List Activity} {flights : List Flight} {session after : Session W}

theorem listed_cancel {checks : Schedule PendingCheck} {uri : Uri} {flight : Flight}
    (member : flight ∈ listed (checks.cancel uri)) :
    flight.uri ≠ uri ∧ flight ∈ listed checks := by
  obtain ⟨task, inside, same⟩ := mem_listed.mp member
  obtain ⟨before, other⟩ := Table.mem_erase.mp inside
  exact ⟨other, mem_listed.mpr ⟨task, before, same⟩⟩

theorem listed_start {checks : Schedule PendingCheck} {uri : Uri} {pending : PendingCheck}
    {flight : Flight} (member : flight ∈ listed (checks.start uri pending)) :
    flight.uri ≠ uri ∧ flight ∈ listed checks ∨
      flight = { uri, generation := checks.last + 1, pending } := by
  obtain ⟨task, inside, generation, job⟩ := mem_listed.mp member
  rcases mem_start inside with before | new
  · exact .inl (listed_cancel (mem_listed.mpr ⟨task, before, generation, job⟩))
  · obtain ⟨rfl, rfl⟩ := Prod.mk.inj new
    obtain ⟨key, number, pending⟩ := flight
    cases generation
    cases job
    exact .inr rfl

theorem launched_start (checks : Schedule PendingCheck) (uri : Uri) (pending : PendingCheck) :
    { uri, generation := checks.last + 1, pending } ∈
      Situation.launched checks.last (checks.start uri pending) := by
  refine List.mem_filterMap.mpr ⟨_, Table.mem_insert.mpr (.inr rfl), ?_⟩
  simp [cancel]

theorem Publishes.notices {uri : Uri} {ok : Bool} (publishes : Publishes uri session ok after) :
    ∃ added, after.notices = session.notices ++ added := by
  cases publishes with
  | failed _ notices _ => exact ⟨[], by simp [notices]⟩
  | cancelled _ _ _ _ notices _ | began _ _ _ notices _ => exact ⟨_, notices⟩

theorem Publishes.accounts {uri : Uri} {ok : Bool} (publishes : Publishes uri session ok after)
    (accounts : Accounts past flights session) (coherent : Coherent after) :
    let activity : Activity :=
      .pass uri ok (Situation.launched session.checks.last after.checks)
        (after.notices.drop session.notices.length)
    Fits past activity ∧ Accounts (past ++ [activity]) flights after := by
  intro activity
  cases publishes with
  | failed _ notices checks =>
    have nothing : after.notices.drop session.notices.length = [] := by simp [notices]
    refine ⟨by simpa [activity, Fits] using nothing, ?_⟩
    have kept := accounts.frame coherent (checks ▸ .refl _) fun _ member => checks ▸ member
    refine kept.extend fun key silenced => ?_
    rw [silenced_snoc] at silenced
    simp only [activity, silences, nothing] at silenced
    split at silenced
    · obtain ⟨_, _, absurd, -⟩ := silenced
      cases absurd
    · exact silenced
  | cancelled found version _ shape notices checks =>
    have sent : after.notices.drop session.notices.length =
        [.publishDiagnostics uri found version] := by simp [notices]
    simp only [activity, sent, checks]
    refine ⟨⟨found, version, rfl, shape⟩, ?_⟩
    refine accounts.succeed coherent (checks ▸ (Step.cancel _ uri).runs)
      (checks ▸ cancel_supersedes _ uri) fun flight member => .inl ?_
    exact listed_cancel (checks ▸ member)
  | began pending _ linted notices checks =>
    have sent : after.notices.drop session.notices.length =
        [.publishDiagnostics uri pending.base pending.version] := by simp [notices]
    simp only [activity, sent, checks]
    refine ⟨⟨pending.base, pending.version, rfl, .inr linted⟩, ?_⟩
    refine accounts.succeed coherent (checks ▸ (Step.start _ uri pending).runs)
      (checks ▸ start_supersedes _ uri pending) fun flight member => ?_
    rcases listed_start (checks ▸ member) with before | rfl
    · exact .inl before
    · exact .inr ⟨rfl, launched_start _ uri pending, rfl, rfl, linted⟩

theorem afterPass_coherent (surroundings : Surroundings W) (uri : Uri)
    (coherent : Coherent session) : Coherent (afterPass surroundings uri session) :=
  Validates.tracks (remembers_nothing _) (validate_ensures surroundings uri session) coherent

theorem pass_accounts (surroundings : Surroundings W) (uri : Uri)
    (accounts : Accounts past flights session) :
    Fits past (pass surroundings uri session) ∧
      Accounts (past ++ [pass surroundings uri session]) flights
        (afterPass surroundings uri session) := by
  have publishes := validate_publishes surroundings uri accounts.coherent
  exact Publishes.accounts publishes accounts
    (afterPass_coherent surroundings uri accounts.coherent)

theorem passes_accounts (surroundings : Surroundings W) (uris : List Uri)
    (accounts : Accounts past flights session) :
    AllFit past (passes surroundings uris session) ∧
      Accounts (past ++ passes surroundings uris session) flights
        (afterPasses surroundings uris session) := by
  induction uris generalizing past session with
  | nil => simpa [passes, afterPasses, AllFit] using accounts
  | cons uri rest ih =>
    obtain ⟨fits, next⟩ := pass_accounts surroundings uri accounts
    obtain ⟨others, last⟩ := ih next
    rw [List.append_assoc] at last
    exact ⟨⟨fits, others⟩, last⟩

theorem passes_notices (surroundings : Surroundings W) (uris : List Uri)
    (coherent : Coherent session) :
    (afterPasses surroundings uris session).notices =
      session.notices ++ (passes surroundings uris session).flatMap Activity.notices := by
  induction uris generalizing session with
  | nil => simp [passes, afterPasses]
  | cons uri rest ih =>
    have publishes : Publishes uri session _ (afterPass surroundings uri session) :=
      validate_publishes surroundings uri coherent
    have sent : (afterPass surroundings uri session).notices =
        session.notices ++ (pass surroundings uri session).notices := by
      obtain ⟨added, appended⟩ := publishes.notices
      show _ = _ ++ (afterPass surroundings uri session).notices.drop session.notices.length
      rw [appended, List.drop_left]
    have later := ih (afterPass_coherent surroundings uri coherent)
    rw [sent] at later
    simpa [afterPasses, passes] using later

end Steps

end Session

namespace Situation

variable {launcher : Launcher W}

def activities (launcher : Launcher W) (situation : Situation W) : SessionEvent → List Activity
  | .message host message =>
    let prepared := Session.prepare { launcher, host } situation.session message
    Session.passes { launcher, host } prepared.2 prepared.1
  | .ended flight run =>
    if flight ∈ situation.flights then
      [.ended flight (situation.advance launcher (.ended flight run)).notices]
    else []

def activitiesOf (launcher : Launcher W) (situation : Situation W) : SessionCall → List Activity
  | .connect _ _ => []
  | .event event =>
    if situation.session.environment.isSome then situation.activities launcher event else []

def sentBy (launcher : Launcher W) (situation : Situation W) : SessionCall → List ClientNotice
  | .connect host params =>
    ((Session.handler { launcher, host }).connect params situation.session).notices
  | .event event =>
    if situation.session.environment.isSome then (situation.advance launcher event).notices
    else []

def log (launcher : Launcher W) : Situation W → List SessionCall → List Activity
  | _, [] => []
  | situation, call :: rest =>
    situation.activitiesOf launcher call ++ log launcher (situation.meet launcher call) rest

def sent (launcher : Launcher W) : Situation W → List SessionCall → List ClientNotice
  | _, [] => []
  | situation, call :: rest =>
    situation.sentBy launcher call ++ sent launcher (situation.meet launcher call) rest

structure Kept (past : List Activity) (situation : Situation W) : Prop where
  accounts : Session.Accounts past situation.flights situation.session
  notices : situation.session.notices = []

structure Continues (past : List Activity) (activities : List Activity)
    (notices : List ClientNotice) (after : Situation W) : Prop where
  sent : notices = activities.flatMap Activity.notices
  fit : AllFit past activities
  kept : Kept (past ++ activities) after

section Steps

variable {past : List Activity} {situation : Situation W}

theorem mem_listed_of_launched {last : Nat} {checks : Schedule PendingCheck} {flight : Flight}
    (member : flight ∈ launched last checks) : flight ∈ Session.listed checks := by
  obtain ⟨task, inside, -, same⟩ := mem_launched member
  exact Session.mem_listed.mpr ⟨task, inside, same⟩

theorem listed_markFinished {checks : Schedule PendingCheck} {uri : Uri} {generation : Nat}
    {flight : Flight} (member : flight ∈ Session.listed (checks.markFinished uri generation)) :
    flight ∈ Session.listed checks := by
  obtain ⟨task, inside, number, job⟩ := Session.mem_listed.mp member
  obtain ⟨before, known, same, kept⟩ := mem_markFinished inside
  exact Session.mem_listed.mpr ⟨before, known, number.trans same.symm, job.trans kept.symm⟩

-- The checks that are under way when a message is over are among those that are listed.
theorem accounts_launched {session : Session W} {flights : List Flight} (last : Nat)
    (accounts : Session.Accounts past flights session) :
    Session.Accounts past (flights ++ launched last session.checks) session := by
  have isListed {flight : Flight} (known : flight ∈ flights ++ launched last session.checks) :
      flight ∈ flights ∨ flight ∈ Session.listed session.checks :=
    (List.mem_append.mp known).imp_right mem_listed_of_launched
  refine ⟨accounts.coherent, accounts.sound, fun flight member => ?_, fun flight known => ?_,
    accounts.unlisted, fun flight member silenced => ?_⟩
  · rcases isListed member with before | now
    · exact accounts.bounded flight before
    · obtain ⟨task, inside, generation, -⟩ := Session.mem_listed.mp now
      exact generation ▸ accounts.sound.bounded _ _ (accounts.sound.current _ inside)
  · rcases known with member | now
    · exact accounts.began flight (isListed member)
    · exact accounts.began flight (.inr now)
  · rcases isListed member with before | now
    · exact accounts.outdated flight before silenced
    · exact absurd silenced (accounts.unlisted flight now)

theorem message_continues (kept : Kept past situation)
    (connected : situation.session.environment.isSome = true) (host : Host)
    (message : EditorMessage) :
    let outcome := situation.advance launcher (.message host message)
    Continues past (situation.activities launcher (.message host message)) outcome.notices
      outcome.state := by
  intro outcome
  have prepares :=
    Session.prepare_prepares { launcher, host } connected kept.accounts.coherent message
  obtain ⟨notices, state⟩ := Session.deliver_eq { launcher, host } message situation.session
  have prepared := kept.accounts.frame prepares.coherent prepares.schedule prepares.listed
  obtain ⟨fit, accounts⟩ := Session.passes_accounts { launcher, host }
    (Session.prepare { launcher, host } situation.session message).2 prepared
  refine ⟨?_, fit, ?_, ?_⟩
  · have all := Session.passes_notices { launcher, host }
      (Session.prepare { launcher, host } situation.session message).2 prepares.coherent
    rw [prepares.notices, kept.notices, List.nil_append] at all
    exact notices.trans all
  · simp only [outcome, advance, state]
    exact (accounts_launched _ accounts).frame accounts.coherent (.refl _) fun _ member => member
  · simp only [outcome, advance, state]

theorem ended_fits (kept : Kept past situation) {flight : Flight}
    (inFlight : flight ∈ situation.flights) (run : CheckerRun) :
    Fits past (.ended flight (situation.advance launcher (.ended flight run)).notices) := by
  intro uri found version published
  simp only [advance, if_pos inFlight, Session.endCheck, kept.notices, List.nil_append]
    at published
  rcases List.mem_append.mp published with complaint | result
  next => exact absurd complaint (outcome_publishes_nothing _ _ _ _ _)
  split at result
  next current =>
    simp only [List.mem_singleton, ClientNotice.publishDiagnostics.injEq] at result
    obtain ⟨rfl, rfl, rfl⟩ := result
    have isCurrent : situation.session.checks.generation? flight.uri = some flight.generation := by
      simpa [Schedule.isCurrent] using current
    exact ⟨rfl, rfl, fun silenced => kept.accounts.outdated flight inFlight silenced isCurrent,
      kept.accounts.began flight (.inl inFlight), _, rfl, TypeCheck.outcome_source⟩
  next => cases result

theorem ended_continues (kept : Kept past situation) (flight : Flight) (run : CheckerRun) :
    let outcome := situation.advance launcher (.ended flight run)
    Continues past (situation.activities launcher (.ended flight run)) outcome.notices
      outcome.state := by
  intro outcome
  by_cases inFlight : flight ∈ situation.flights
  next =>
    have activities : situation.activities launcher (.ended flight run) =
        [.ended flight outcome.notices] := if_pos inFlight
    rw [activities]
    refine ⟨by simp [Activity.notices], ⟨ended_fits kept inFlight run, trivial⟩, ?_, ?_⟩
    · have session : outcome.state.session.checks =
          situation.session.checks.markFinished flight.uri flight.generation := by
        simp only [outcome, advance, if_pos inFlight]
        rfl
      have coherent : Session.Coherent outcome.state.session := by
        simp only [outcome, advance, if_pos inFlight]
        exact kept.accounts.coherent
      have flights : outcome.state.flights = situation.flights.erase flight := by
        simp only [outcome, advance, if_pos inFlight]
      rw [flights]
      refine ((kept.accounts.frame coherent ?_ ?_).extend ?_).narrow fun other member =>
        List.mem_of_mem_erase member
      · exact session ▸ (Step.finish _ _ _).runs
      · exact session ▸ fun other => listed_markFinished
      · exact fun uri silenced => (silenced_snoc _).mp silenced
    · simp [outcome, advance, inFlight]
  next =>
    have nothing : situation.activities launcher (.ended flight run) = [] := if_neg inFlight
    have same : outcome = { result := .ok (), notices := [], state := situation } :=
      if_neg inFlight
    rw [nothing, same]
    exact ⟨rfl, trivial, by simpa using kept⟩

theorem connect_continues (kept : Kept past situation) (host : Host)
    (params : InitializeParams) :
    Continues past [] (situation.sentBy launcher (.connect host params))
      (situation.connect launcher host params) := by
  obtain ⟨result, after, ⟨documents, handles, checks, notices, -⟩, performed⟩ :=
    Session.perform_ensures
      (Session.connect_ensures { launcher, host } params situation.session)
  have tracks : Session.Tracks (fun _ _ _ => True) situation.session := kept.accounts.coherent
  have coherent : Session.Coherent after := tracks.frame handles documents fun _ _ known => known
  simp only [sentBy, connect, Session.handler, performed]
  refine ⟨notices.trans kept.notices, trivial, ?_, rfl⟩
  rw [List.append_nil]
  exact kept.accounts.frame coherent (checks ▸ .refl _) fun flight member => by
    rwa [← checks]

theorem call_continues (kept : Kept past situation) (call : SessionCall) :
    Continues past (situation.activitiesOf launcher call) (situation.sentBy launcher call)
      (situation.meet launcher call) := by
  cases call with
  | connect host params => exact connect_continues kept host params
  | event event =>
    simp only [activitiesOf, sentBy, meet]
    split
    next connected =>
      cases event with
      | message host message => exact message_continues kept connected host message
      | ended flight run => exact ended_continues kept flight run
    next => exact ⟨rfl, trivial, by simpa using kept⟩

theorem log_fits (kept : Kept past situation) (calls : List SessionCall) :
    situation.sent launcher calls = (situation.log launcher calls).flatMap Activity.notices ∧
      AllFit past (situation.log launcher calls) := by
  induction calls generalizing past situation with
  | nil => exact ⟨rfl, trivial⟩
  | cons call rest ih =>
    have first : Continues past (situation.activitiesOf launcher call) _
        (situation.meet launcher call) :=
      call_continues kept call
    obtain ⟨others, fit⟩ := ih first.kept
    simp only [sent, log, List.flatMap_append]
    exact ⟨by rw [first.sent, others], (allFit_append past _ _).mpr ⟨first.fit, fit⟩⟩

theorem created_kept (python : String) (settings : Settings) (world : W) :
    Kept [] { session := .create python settings world, flights := [] } := by
  refine ⟨⟨?_, .empty, ?_, ?_, ?_, ?_⟩, rfl⟩
  · intro uri handle _ cached
    cases cached
  · exact fun flight member => nomatch member
  · rintro flight (member | member) <;> cases member
  · exact fun flight member => nomatch member
  · exact fun flight member => nomatch member

end Steps

end Situation

-- In the whole life of a session, each list that is published holds syntax errors alone, or what the
-- two linters and then the type checker have found. A pass that fails publishes nothing, and one
-- that succeeds one list. Once a pass has published syntax errors for a document, nothing follows
-- for it before the next pass over it. The end of a type check publishes its findings behind what
-- the pass that began it has published, under the same version.
theorem publications_keep_their_shape (launcher : Launcher W) (python : String)
    (settings : Settings) (world : W) (calls : List SessionCall) :
    let created : Situation W := { session := .create python settings world, flights := [] }
    let log := created.log launcher calls
    created.sent launcher calls = log.flatMap Activity.notices ∧
    (∀ uri found version,
      .publishDiagnostics uri found version ∈ created.sent launcher calls →
        SyntaxOnly found ∨ ∃ linted types, found = linted ++ types ∧ Linted linted ∧
          ∀ diagnostic ∈ types, diagnostic.source = .mypy) ∧
    (∀ uri ok begun notices, .pass uri ok begun notices ∈ log →
      if ok then ∃ found version, notices = [.publishDiagnostics uri found version]
      else notices = []) ∧
    (∀ earlier between later activity uri ok begun found version,
      log = earlier ++ .pass uri ok begun [.publishDiagnostics uri found version] ::
        (between ++ activity :: later) →
      SyntaxOnly found → (∀ other ∈ between ++ [activity], ¬ other.IsPassOver uri) →
        ∀ diagnostics number, .publishDiagnostics uri diagnostics number ∉ activity.notices) ∧
    ∀ earlier later flight notices uri found version,
      log = earlier ++ .ended flight notices :: later →
      .publishDiagnostics uri found version ∈ notices →
        ∃ begun base types, .pass uri true begun [.publishDiagnostics uri base version] ∈ earlier ∧
          flight ∈ begun ∧ Linted base ∧ found = base ++ types ∧
          ∀ diagnostic ∈ types, diagnostic.source = .mypy := by
  intro created log
  obtain ⟨sent, fit⟩ : created.sent launcher calls = log.flatMap Activity.notices ∧ AllFit [] log :=
    Situation.log_fits (Situation.created_kept python settings world) calls
  have fits {earlier later : List Activity} {activity : Activity}
      (cut : log = earlier ++ activity :: later) : Fits earlier activity :=
    (cut ▸ fit : AllFit [] (earlier ++ activity :: later)).at
  refine ⟨sent, fun uri found version published => ?_, fun uri ok begun notices member => ?_,
    fun earlier between later activity uri ok begun found version cut only others => ?_,
    fun earlier later flight notices uri found version cut published => ?_⟩
  · rw [sent] at published
    obtain ⟨activity, member, inside⟩ := List.mem_flatMap.mp published
    obtain ⟨earlier, later, cut⟩ := List.append_of_mem member
    exact (fits cut).shape inside
  · obtain ⟨earlier, later, cut⟩ := List.append_of_mem member
    have outcome := fits cut
    cases ok with
    | false => exact outcome
    | true =>
      obtain ⟨found, version, same, -⟩ := outcome
      exact ⟨found, version, same⟩
  · have silenced : Silenced uri (earlier ++
        .pass uri ok begun [.publishDiagnostics uri found version] :: between) :=
      silenced_between only fun other member => others other (List.mem_append_left _ member)
    rw [← List.cons_append, ← List.append_assoc] at cut
    exact (fits cut).silent silenced (others activity (by simp))
  · obtain ⟨rfl, rfl, -, ⟨begun, member, own, linted⟩, types, rfl, sources⟩ :=
      fits cut uri found version published
    exact ⟨begun, _, types, member, own, linted, rfl, sources⟩

namespace CannedEngine

def fussy : Launcher CannedEngine :=
  { launch
    engine :=
      { engine with
        syntaxErrors := fun script canned =>
          (.ok (if script = 2 then [{ line := 1, column := 4, untilLine := 1, untilColumn := 5 }]
            else []), canned) } }

def app : Uri := ⟨"file:///app.py"⟩

def checkOf (generation : Nat) (version : Int) (line : String) : Flight :=
  { uri := app, generation
    pending :=
      { check :=
          { python := "python3", executable := .ofString "/usr/bin/python3", version := "3.12"
            configFile := "", file := .ofString "/app.py", lines := [line, ""] }
        base := [], version } }

-- A document breaks and is mended. The check of its first text ends while it is broken, the check
-- of its last text at the end.
def mended : List SessionCall :=
  [.connect .bare .bare,
    .event (.message .bare (opening 1 "x = 1\n")),
    .event (.message .bare (opening 2 "x = )\n")),
    .event (.ended (checkOf 1 1 "x = 1\n") (.finished [] [])),
    .event (.message .bare (opening 3 "x = 3\n")),
    .event (.ended (checkOf 3 3 "x = 3\n")
      (.finished (Utf8.encode "/app.py:1:1: error: wrong\n") []))]

end CannedEngine

open CannedEngine

theorem broken_document_is_left_alone :
    let created : Situation CannedEngine :=
      { session := .create "python3" { Settings.default with typeCheck := true } silent
        flights := [] }
    ∃ first broken late again last,
      created.log fussy mended = [first, broken, .ended (checkOf 1 1 "x = 1\n") late, again,
        .ended (checkOf 3 3 "x = 3\n") last] ∧
      (∃ found, broken = .pass app true [] [.publishDiagnostics app found 2] ∧
        SyntaxOnly found) ∧
      (∀ found version, .publishDiagnostics app found version ∉ late) ∧
      ∃ begun base types, .publishDiagnostics app (base ++ types) 3 ∈ last ∧
        .pass app true begun [.publishDiagnostics app base 3] ∈
          [first, broken, .ended (checkOf 1 1 "x = 1\n") late, again] := by
  intro created
  let found : List Diagnostic :=
    syntaxDiagnostics [{ line := 1, column := 4, untilLine := 1, untilColumn := 5 }]
  let wrong : Diagnostic :=
    { range := { start := ⟨0, 0⟩, stop := ⟨0, 5⟩ }, severity := .warning, code := none
      source := .mypy, message := "wrong" }
  let first : Activity := .pass app true [checkOf 1 1 "x = 1\n"] [.publishDiagnostics app [] 1]
  let broken : Activity := .pass app true [] [.publishDiagnostics app found 2]
  let again : Activity := .pass app true [checkOf 3 3 "x = 3\n"] [.publishDiagnostics app [] 3]
  have lived : created.log fussy mended =
      [first, broken, .ended (checkOf 1 1 "x = 1\n") [], again,
        .ended (checkOf 3 3 "x = 3\n") [.publishDiagnostics app [wrong] 3]] := by
    decide +kernel
  have only : SyntaxOnly found := syntaxDiagnostics_syntaxOnly (by simp)
  obtain ⟨-, -, -, silenced, paired⟩ := publications_keep_their_shape fussy "python3"
    { Settings.default with typeCheck := true } silent mended
  have late := silenced [first] [] _ _ app true [] found 2 lived only
    (by simp [Activity.IsPassOver])
  obtain ⟨begun, base, types, member, -, -, same, -⟩ :=
    paired [first, broken, .ended (checkOf 1 1 "x = 1\n") [], again] [] _ _ app [wrong] 3 lived
      (by simp)
  exact ⟨first, broken, [], again, _, lived, ⟨found, rfl, only⟩, late, begun, base, types,
    by simp [← same], member⟩

end PythonAssist
