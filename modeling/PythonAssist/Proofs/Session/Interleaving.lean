import PythonAssist.Proofs.Session.Publications

set_option autoImplicit false

namespace PythonAssist

variable {W A : Type}

open Session
open Situation (launched)

inductive Stage where
  | due (uris : List Uri)
  | inspected (uri : Uri) (found : Inspection) (rest : List Uri)
  | announced (uri : Uri) (found : Inspection) (rest : List Uri)

def Stage.isIdle : Stage → Bool
  | .due [] => true
  | _ => false

theorem Stage.eq_of_isIdle {stage : Stage} (idle : stage.isIdle = true) : stage = .due [] := by
  unfold isIdle at idle
  split at idle
  next => rfl
  next => cases idle

-- A session between two actions of the thread that deals with messages. The type checks that have
-- begun end on threads of their own, whatever the stage. The session has kept the notices that were
-- sent since the last message came.
structure Moment (W : Type) where
  session : Session W
  flights : List Flight
  stage : Stage

namespace Moment

def start (session : Session W) : Moment W := { session, flights := [], stage := .due [] }

def leave (moment : Moment W) (session : Session W) (flights : List Flight) (stage : Stage) :
    Outcome (Moment W) Unit :=
  { result := .ok ()
    notices := session.notices.drop moment.session.notices.length
    state := { session, flights, stage } }

def stay (moment : Moment W) : Outcome (Moment W) Unit :=
  moment.leave moment.session moment.flights moment.stage

def proceed (surroundings : Surroundings W) (moment : Moment W) : Outcome (Moment W) Unit :=
  match moment.stage with
  | .due [] => moment.stay
  | .due (uri :: rest) =>
    match (inspect surroundings uri).run moment.session with
    | (.ok found, after) => moment.leave after moment.flights (.inspected uri found rest)
    | (.error _, after) => moment.leave after moment.flights (.due rest)
  | .inspected uri found rest =>
    moment.leave ((announce found).run moment.session).2 moment.flights (.announced uri found rest)
  | .announced uri found rest =>
    let after := ((renewCheck surroundings.host uri found).run moment.session).2
    moment.leave after (moment.flights ++ launched moment.session.checks.last after.checks)
      (.due rest)

def finish (moment : Moment W) (flight : Flight) (run : CheckerRun) : Outcome (Moment W) Unit :=
  if flight ∈ moment.flights then
    moment.leave (moment.session.endCheck flight.uri flight.generation flight.pending run)
      (moment.flights.erase flight) moment.stage
  else moment.stay

def quiet (moment : Moment W) : Session W := { moment.session with notices := [] }

def lift (moment : Moment W) (outcome : Outcome (Session W) A) : Outcome (Moment W) A :=
  { result := outcome.result
    notices := outcome.notices
    state := { moment with session := outcome.state } }

-- A message is dealt with in one action, but for the passes that it makes due.
def handler (surroundings : Surroundings W) : Handler (Moment W) :=
  let whole := Session.handler surroundings
  { connect := fun params moment => moment.lift (whole.connect params moment.quiet)
    shutdown := fun moment => moment.lift (whole.shutdown moment.quiet)
    answer := fun query moment => moment.lift (whole.answer query moment.quiet)
    receive := fun notice moment =>
      let prepared := prepare surroundings moment.quiet (.notice notice)
      { moment with session := moment.quiet }.leave prepared.1 moment.flights (.due prepared.2) }

inductive Proceeds (surroundings : Surroundings W) (moment : Moment W) :
    Outcome (Moment W) Unit → Prop
  | idle : moment.stage = .due [] → Proceeds surroundings moment moment.stay
  | failed (uri : Uri) (rest : List Uri) (after : Session W) :
      moment.stage = .due (uri :: rest) →
      Moves surroundings.launcher.engine uri moment.session after →
      Proceeds surroundings moment (moment.leave after moment.flights (.due rest))
  | inspected (uri : Uri) (rest : List Uri) (found : Inspection) (after : Session W) :
      moment.stage = .due (uri :: rest) →
      Moves surroundings.launcher.engine uri moment.session after →
      after.handles.find? uri = some found.handle →
      Proceeds surroundings moment (moment.leave after moment.flights (.inspected uri found rest))
  | announced (uri : Uri) (found : Inspection) (rest : List Uri) :
      moment.stage = .inspected uri found rest →
      Proceeds surroundings moment
        (moment.leave ((announce found).run moment.session).2 moment.flights
          (.announced uri found rest))
  | renewed (uri : Uri) (found : Inspection) (rest : List Uri) (after : Session W) :
      moment.stage = .announced uri found rest → Renews uri found moment.session after →
      Proceeds surroundings moment
        (moment.leave after (moment.flights ++ launched moment.session.checks.last after.checks)
          (.due rest))

theorem proceed_proceeds (surroundings : Surroundings W) (moment : Moment W) :
    Proceeds surroundings moment (moment.proceed surroundings) := by
  obtain ⟨session, flights, stage⟩ := moment
  cases stage with
  | due uris =>
    cases uris with
    | nil => exact .idle rfl
    | cons uri rest =>
      have looks := inspect_ensures surroundings uri session
      unfold Ensures at looks
      unfold proceed
      dsimp only
      generalize (inspect surroundings uri).run session = pair at looks
      obtain ⟨e | found, after⟩ := pair
      next => exact .failed uri rest after rfl looks.1
      next => exact .inspected uri rest found after rfl looks.1 (looks.2 found rfl).1
  | inspected uri found rest => exact .announced uri found rest rfl
  | announced uri found rest =>
    exact .renewed uri found rest _ rfl (renewCheck_ensures surroundings.host uri found session).2

section Launched

variable {checks : Schedule PendingCheck} {uri : Uri} {pending : PendingCheck}

theorem launched_of_old {last : Nat}
    (old : ∀ entry ∈ checks.tasks.entries, entry.2.generation ≤ last) :
    launched last checks = [] :=
  List.filterMap_eq_nil_iff.mpr fun entry member => if_neg (Nat.not_lt.mpr (old entry member))

theorem launched_cancel (sound : checks.Sound) : launched checks.last (checks.cancel uri) = [] := by
  refine launched_of_old fun entry member => ?_
  have before := (Table.mem_erase.mp member).1
  exact sound.bounded _ _ (sound.current _ before)

theorem launched_start (sound : checks.Sound) :
    launched checks.last (checks.start uri pending) =
      [{ uri, generation := checks.last + 1, pending }] := by
  let task : Task PendingCheck :=
    { generation := checks.last + 1, job := pending, finished := false }
  let others : Schedule PendingCheck :=
    { checks with
      tasks := ((checks.cancel uri).tasks.filter fun _ task => !task.finished).erase uri }
  have old : launched checks.last others = [] := by
    refine launched_of_old fun entry member => ?_
    have unfinished := (Table.mem_erase.mp member).1
    have before := (Table.mem_erase.mp (List.mem_filter.mp unfinished).1).1
    exact sound.bounded _ _ (sound.current _ before)
  have entries : (checks.start uri pending).tasks.entries =
      others.tasks.entries ++ [(uri, task)] := rfl
  unfold launched at old ⊢
  rw [entries, List.filterMap_append, old]
  simp [task]

end Launched

section Undisturbed

variable (surroundings : Surroundings W)

def proceedBy : Nat → Moment W → List ClientNotice × Moment W
  | 0, moment => ([], moment)
  | count + 1, moment =>
    let next := moment.proceed surroundings
    let rest := proceedBy count next.state
    (next.notices ++ rest.1, rest.2)

theorem proceedBy_idle (count : Nat) (session : Session W) (flights : List Flight) :
    proceedBy surroundings count { session, flights, stage := .due [] } =
      ([], { session, flights, stage := .due [] }) := by
  induction count with
  | zero => rfl
  | succ count ih =>
    unfold proceedBy
    simp [proceed, stay, leave, ih]

section Pass

variable {uri : Uri} {session after : Session W}

theorem proceedBy_of_failed {e : SessionError}
    (inspected : (inspect surroundings uri).run session = (.error e, after)) (count : Nat)
    (flights : List Flight) (rest : List Uri) :
    afterPass surroundings uri session = after ∧ after.notices = session.notices ∧
      proceedBy surroundings (count + 1) { session, flights, stage := .due (uri :: rest) } =
        proceedBy surroundings count { session := after, flights, stage := .due rest } := by
  have keeps := (inspect_ensures surroundings uri session).1.keeps
  have silent : after.notices = session.notices := by rw [← keeps.notices, inspected]
  have nothing : after.notices.drop session.notices.length = [] := by simp [silent]
  refine ⟨by rw [afterPass, validate_eq, run_bind, inspected], silent, ?_⟩
  simp only [proceedBy, proceed, inspected, leave, nothing, List.nil_append]

theorem proceedBy_of_found {found : Inspection}
    (inspected : (inspect surroundings uri).run session = (.ok found, after)) (count : Nat)
    (flights : List Flight) (rest : List Uri) :
    ∃ more notice, (afterPass surroundings uri session).notices = session.notices ++ [notice] ∧
      proceedBy surroundings (count + 3) { session, flights, stage := .due (uri :: rest) } =
        Prod.map (List.cons notice) id (proceedBy surroundings count
          { session := afterPass surroundings uri session, flights := flights ++ more
            stage := .due rest }) := by
  have keeps := (inspect_ensures surroundings uri session).1.keeps
  have silent : after.notices = session.notices := by rw [← keeps.notices, inspected]
  let spoken := ((announce found).run after).2
  have said : spoken.notices = session.notices ++ [.publishDiagnostics found.handle.uri
      found.validation.diagnostics found.handle.version] := by
    rw [← silent]
    rfl
  have whole : afterPass surroundings uri session =
      ((renewCheck surroundings.host uri found).run spoken).2 := by
    rw [afterPass, validate_eq, run_bind, inspected]
    rfl
  have renewed : (afterPass surroundings uri session).notices = spoken.notices := by
    rw [whole]
    exact Renews.notices (renewCheck_ensures surroundings.host uri found spoken).2
  refine ⟨launched spoken.checks.last (afterPass surroundings uri session).checks, _,
    renewed.trans said, ?_⟩
  simp only [proceedBy, proceed, inspected, leave]
  rw [show ((announce found).run after).2 = spoken from rfl, ← whole]
  simp only [silent, said, renewed, List.drop_left, List.drop_length]
  rfl

end Pass

-- Nothing but the actions of the passes makes up what the passes do.
theorem proceedBy_due (uris : List Uri) (count : Nat) (enough : 3 * uris.length ≤ count)
    (session : Session W) (flights : List Flight) :
    let ended := proceedBy surroundings count { session, flights, stage := .due uris }
    ended.2.session = afterPasses surroundings uris session ∧ ended.2.stage = .due [] ∧
      (afterPasses surroundings uris session).notices = session.notices ++ ended.1 := by
  induction uris generalizing count session flights with
  | nil => simp [proceedBy_idle, afterPasses]
  | cons uri rest ih =>
    rw [List.length_cons] at enough
    have whole : afterPasses surroundings (uri :: rest) session =
        afterPasses surroundings rest (afterPass surroundings uri session) := rfl
    rw [whole]
    rcases inspected : (inspect surroundings uri).run session with ⟨e | found, after⟩
    next =>
      obtain ⟨count, rfl⟩ : ∃ fewer, count = fewer + 1 := ⟨count - 1, by omega⟩
      obtain ⟨same, silent, steps⟩ := proceedBy_of_failed surroundings inspected count flights rest
      rw [steps, same, ← silent]
      exact ih count (by omega) after flights
    next =>
      obtain ⟨count, rfl⟩ : ∃ fewer, count = fewer + 3 := ⟨count - 3, by omega⟩
      obtain ⟨more, notice, said, steps⟩ :=
        proceedBy_of_found surroundings inspected count flights rest
      obtain ⟨reached, idle, notices⟩ :=
        ih count (by omega) (afterPass surroundings uri session) (flights ++ more)
      rw [steps]
      refine ⟨reached, idle, ?_⟩
      rw [notices, said, List.append_assoc]
      rfl

-- A message whose passes come one after the other, with nothing in between, does what the session
-- does with it.
theorem receive_undisturbed (notice : Notice) (moment : Moment W) (count : Nat)
    (enough : 3 * (prepare surroundings moment.quiet (.notice notice)).2.length ≤ count) :
    let taken := (handler surroundings).receive notice moment
    let ended := proceedBy surroundings count taken.state
    let whole := (Session.handler surroundings).receive notice moment.quiet
    ended.2.stage = .due [] ∧ ended.2.quiet = whole.state ∧
      taken.notices ++ ended.1 = whole.notices := by
  intro taken ended whole
  obtain ⟨sent, left⟩ := deliver_eq surroundings (.notice notice) moment.quiet
  obtain ⟨reached, idle, notices⟩ := proceedBy_due surroundings _ count enough
    (prepare surroundings moment.quiet (.notice notice)).1 moment.flights
  refine ⟨idle, ?_, ?_⟩
  · show { ended.2.session with notices := [] } = whole.state
    rw [show ended.2.session = _ from reached]
    exact left.symm
  · exact notices.symm.trans sent.symm

end Undisturbed

end Moment

end PythonAssist
