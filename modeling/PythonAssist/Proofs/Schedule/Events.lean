import Mathlib.Logic.Function.Basic
import PythonAssist.Proofs.Schedule.Generations

set_option autoImplicit false

namespace PythonAssist

namespace Table

variable {K V : Type} [DecidableEq K]

theorem lookup_filter {key : K} {value : V} {keep : K → V → Bool} {entries : List (K × V)}
    (found : lookup key entries = some value) (kept : keep key value = true) :
    lookup key (entries.filter fun entry => keep entry.1 entry.2) = some value := by
  induction entries with
  | nil => cases found
  | cons entry rest ih =>
    obtain ⟨k, v⟩ := entry
    unfold lookup at found
    split at found
    next same =>
      cases found
      subst same
      simp [kept, lookup]
    next different =>
      by_cases passes : keep k v
      next => simpa [passes, lookup, different] using ih found
      next => simpa [passes] using ih found

theorem find?_filter {table : Table K V} {key : K} {value : V} {keep : K → V → Bool}
    (found : table.find? key = some value) (kept : keep key value = true) :
    (table.filter keep).find? key = some value :=
  lookup_filter found kept

theorem mem_keys_of_find? {table : Table K V} {key : K} {value : V}
    (found : table.find? key = some value) : key ∈ table.keys :=
  List.mem_map_of_mem (mem_of_lookup found)

end Table

-- What happens to a schedule: calls, and checks that go on by themselves. The checks of a document
-- are numbered in the order in which they began. A check may complete at any time, also when
-- another one has replaced it, and one that broke down is gone without having completed.
inductive ScheduleEvent (T R : Type) where
  | start (uri : Uri) (job : T)
  | cancel (uri : Uri)
  | forget (uri : Uri)
  | cancelAll
  | complete (uri : Uri) (number : Nat) (findings : R)
  | leave (uri : Uri) (number : Nat)

namespace ScheduleEvent

variable {T R : Type}

def begins (uri : Uri) : ScheduleEvent T R → Bool
  | start other _ => other == uri
  | _ => false

def supersedes (uri : Uri) : ScheduleEvent T R → Bool
  | start other _ | cancel other | forget other => other == uri
  | cancelAll => true
  | complete _ _ _ | leave _ _ => false

def ends (uri : Uri) (number : Nat) : ScheduleEvent T R → Bool
  | complete other n _ | leave other n => other == uri && n == number
  | _ => false

def concerns (uri : Uri) : ScheduleEvent T R → Bool
  | start other _ | cancel other | forget other | complete other _ _ | leave other _ => other == uri
  | cancelAll => true

end ScheduleEvent

-- A schedule with all that came of it. For each document: the generations of the checks that it
-- began, the numbers of those that cannot complete any more, and what was published. `given` lists
-- the generations in the order in which calls received them. Generations are counted without a
-- bound; a 64-bit counter is never used up.
structure ScheduleRun (T R : Type) where
  schedule : Schedule T
  begun : Uri → List Nat
  ended : Uri → List Nat
  published : Uri → List (Nat × R)
  given : List Nat

namespace ScheduleRun

variable {T R A : Type}

def fresh : ScheduleRun T R :=
  { schedule := .empty, begun := fun _ => [], ended := fun _ => [], published := fun _ => []
    given := [] }

def addFor (uri : Uri) (item : A) (items : Uri → List A) : Uri → List A :=
  Function.update items uri (items uri ++ [item])

def cancel (run : ScheduleRun T R) (uri : Uri) : ScheduleRun T R :=
  let schedule := run.schedule.cancel uri
  { run with schedule, given := run.given ++ [schedule.last] }

-- A task compares the generation that it was begun with, however late it completes. That it has
-- finished shows in the schedule only afterwards.
def advance (run : ScheduleRun T R) : ScheduleEvent T R → ScheduleRun T R
  | .start uri job =>
    let schedule := run.schedule.start uri job
    { run with
      schedule
      begun := addFor uri schedule.last run.begun
      given := run.given ++ [schedule.last] }
  | .cancel uri => run.cancel uri
  | .forget uri => { run with schedule := run.schedule.forget uri }
  | .cancelAll => run.schedule.tasks.keys.foldl cancel run
  | .complete uri number findings =>
    match (run.begun uri)[number]? with
    | none => run
    | some generation =>
      if number ∈ run.ended uri then run
      else
        { run with
          ended := addFor uri number run.ended
          published :=
            if run.schedule.isCurrent uri generation then
              addFor uri (number, findings) run.published
            else run.published }
  | .leave uri number =>
    match (run.begun uri)[number]? with
    | none => run
    | some generation =>
      { run with
        schedule := run.schedule.markFinished uri generation
        ended := addFor uri number run.ended }

def ofEvents (events : List (ScheduleEvent T R)) : ScheduleRun T R := events.foldl advance fresh

theorem addFor_self (uri : Uri) (item : A) (items : Uri → List A) :
    addFor uri item items uri = items uri ++ [item] :=
  Function.update_self uri _ items

theorem addFor_of_ne {uri other : Uri} (different : uri ≠ other) (item : A)
    (items : Uri → List A) : addFor other item items uri = items uri :=
  Function.update_of_ne different _ items

theorem foldl_cancel (uris : List Uri) (run : ScheduleRun T R) :
    (uris.foldl cancel run).schedule = uris.foldl Schedule.cancel run.schedule ∧
      (uris.foldl cancel run).begun = run.begun ∧ (uris.foldl cancel run).ended = run.ended ∧
      (uris.foldl cancel run).published = run.published := by
  induction uris generalizing run with
  | nil => exact ⟨rfl, rfl, rfl, rfl⟩
  | cons uri rest ih => exact ih (run.cancel uri)

theorem advance_cancelAll (run : ScheduleRun T R) :
    (run.advance .cancelAll).schedule = run.schedule.cancelAll :=
  (foldl_cancel run.schedule.tasks.keys run).1

structure Ascends (run : ScheduleRun T R) : Prop where
  bounded : ∀ generation ∈ run.given, generation ≤ run.schedule.last
  ascending : run.given.Pairwise (· < ·)

theorem Ascends.receive {run after : ScheduleRun T R} (ascends : Ascends run)
    (next : after.schedule.last = run.schedule.last + 1)
    (given : after.given = run.given ++ [after.schedule.last]) : Ascends after := by
  have earlier : ∀ generation ∈ run.given, generation < after.schedule.last := by
    intro generation member
    have := ascends.bounded generation member
    omega
  refine ⟨fun generation member => ?_, ?_⟩
  next =>
    rw [given, List.mem_append, List.mem_singleton] at member
    rcases member with old | rfl
    · exact Nat.le_of_lt (earlier generation old)
    · exact Nat.le_refl _
  next =>
    rw [given, List.pairwise_append]
    refine ⟨ascends.ascending, List.pairwise_singleton _ _, fun generation member last same => ?_⟩
    rw [List.mem_singleton.mp same]
    exact earlier generation member

theorem Ascends.keep {run after : ScheduleRun T R} (ascends : Ascends run)
    (last : after.schedule.last = run.schedule.last) (given : after.given = run.given) :
    Ascends after :=
  ⟨by rw [last, given]; exact ascends.bounded, given ▸ ascends.ascending⟩

theorem Ascends.cancel {run : ScheduleRun T R} (ascends : Ascends run) (uri : Uri) :
    Ascends (run.cancel uri) :=
  ascends.receive rfl rfl

theorem Ascends.foldl_cancel {run : ScheduleRun T R} (ascends : Ascends run) (uris : List Uri) :
    Ascends (uris.foldl ScheduleRun.cancel run) := by
  induction uris generalizing run with
  | nil => exact ascends
  | cons uri rest ih => exact ih (ascends.cancel uri)

theorem Ascends.advance {run : ScheduleRun T R} (ascends : Ascends run)
    (event : ScheduleEvent T R) : Ascends (run.advance event) := by
  cases event with
  | start uri job => exact ascends.receive rfl rfl
  | cancel uri => exact ascends.cancel uri
  | forget uri => exact ascends.keep rfl rfl
  | cancelAll => exact ascends.foldl_cancel _
  | complete uri number findings =>
    simp only [ScheduleRun.advance]
    split
    next => exact ascends
    next => split <;> exact ascends.keep rfl rfl
  | leave uri number =>
    simp only [ScheduleRun.advance]
    split
    next => exact ascends
    next generation _ =>
      exact ascends.keep (Schedule.markFinished_generations run.schedule uri generation).2 rfl

theorem Ascends.foldl_advance {run : ScheduleRun T R} (ascends : Ascends run)
    (events : List (ScheduleEvent T R)) : Ascends (events.foldl ScheduleRun.advance run) := by
  induction events generalizing run with
  | nil => exact ascends
  | cons event rest ih => exact ih (ascends.advance event)

theorem fresh_ascends : Ascends (fresh : ScheduleRun T R) :=
  ⟨fun _ member => absurd member List.not_mem_nil, List.Pairwise.nil⟩

end ScheduleRun

namespace Schedule

variable {T : Type} {uri : Uri} {before after : Schedule T}

structure Spares (uri : Uri) (before after : Schedule T) : Prop where
  last : before.last ≤ after.last
  generation : after.generation? uri = before.generation? uri
  task : ∀ task, before.tasks.find? uri = some task → task.finished = false →
    after.tasks.find? uri = some task

theorem Spares.refl (uri : Uri) (schedule : Schedule T) : Spares uri schedule schedule :=
  ⟨Nat.le_refl _, rfl, fun _ found _ => found⟩

theorem Spares.trans {middle : Schedule T} (first : Spares uri before middle)
    (second : Spares uri middle after) : Spares uri before after where
  last := Nat.le_trans first.last second.last
  generation := second.generation.trans first.generation
  task := fun task found running => second.task task (first.task task found running) running

theorem cancel_spares {other : Uri} (different : uri ≠ other) (schedule : Schedule T) :
    Spares uri schedule (schedule.cancel other) := by
  refine ⟨Nat.le_succ _, ?_, fun task found _ => ?_⟩
  next => rw [generation?_cancel, if_neg different]
  next =>
    show (schedule.tasks.erase other).find? uri = some task
    rw [Table.find?_erase, if_neg different, found]

theorem start_spares {other : Uri} (different : uri ≠ other) (schedule : Schedule T) (job : T) :
    Spares uri schedule (schedule.start other job) := by
  have cancelled := cancel_spares different schedule
  refine ⟨cancelled.last, cancelled.generation, fun task found running => ?_⟩
  have kept :
      ((schedule.cancel other).tasks.filter fun _ task => !task.finished).find? uri = some task :=
    Table.find?_filter (cancelled.task task found running) (by simp [running])
  show (Table.insert _ other _).find? uri = some task
  rw [Table.find?_insert, if_neg different]
  exact kept

theorem forget_spares {other : Uri} (different : uri ≠ other) (schedule : Schedule T) :
    Spares uri schedule (schedule.forget other) := by
  refine ⟨Nat.le_refl _, ?_, fun task found _ => ?_⟩
  next => rw [generation?_forget, if_neg different]
  next =>
    show (schedule.tasks.erase other).find? uri = some task
    rw [Table.find?_erase, if_neg different, found]

theorem find?_markFinished {other : Uri} (schedule : Schedule T) (number : Nat)
    {task : Task T} (found : schedule.tasks.find? uri = some task)
    (spared : uri = other → task.generation ≠ number) :
    (schedule.markFinished other number).tasks.find? uri = some task := by
  unfold markFinished
  split
  next => exact found
  next listed isListed =>
    split
    next same =>
      have different : uri ≠ other := by
        rintro rfl
        rw [found] at isListed
        cases isListed
        exact spared rfl same
      show (Table.insert _ other _).find? uri = some task
      rw [Table.find?_insert, if_neg different, found]
    next => exact found

theorem markFinished_spares {other : Uri} (schedule : Schedule T) (generation : Nat)
    (spared : uri = other → ∀ task, schedule.tasks.find? uri = some task →
      task.finished = false → task.generation ≠ generation) :
    Spares uri schedule (schedule.markFinished other generation) := by
  obtain ⟨generations, last⟩ := markFinished_generations schedule other generation
  refine ⟨Nat.le_of_eq last.symm, by rw [generation?, generations]; rfl, ?_⟩
  intro task found running
  exact find?_markFinished schedule generation found fun same => spared same task found running

theorem foldl_cancel_last (uris : List Uri) (schedule : Schedule T) :
    schedule.last ≤ (uris.foldl cancel schedule).last := by
  induction uris generalizing schedule with
  | nil => exact Nat.le_refl _
  | cons uri rest ih => exact Nat.le_of_succ_le (ih (schedule.cancel uri))

theorem foldl_cancel_spares {uris : List Uri} (absent : uri ∉ uris) (schedule : Schedule T) :
    Spares uri schedule (uris.foldl cancel schedule) := by
  induction uris generalizing schedule with
  | nil => exact .refl uri schedule
  | cons other rest ih =>
    obtain ⟨different, absent⟩ := not_or.mp fun member => absent (List.mem_cons.mpr member)
    exact (cancel_spares different schedule).trans (ih absent _)

theorem foldl_cancel_supersedes {uris : List Uri} (present : uri ∈ uris) (schedule : Schedule T) :
    Supersedes uri schedule (uris.foldl cancel schedule) := by
  induction uris generalizing schedule with
  | nil => cases present
  | cons other rest ih =>
    intro generation found
    by_cases again : uri ∈ rest
    next => exact Nat.lt_of_succ_lt (ih again (schedule.cancel other) generation found)
    next =>
      obtain rfl := (List.mem_cons.mp present).resolve_right again
      rw [List.foldl_cons, (foldl_cancel_spares again _).generation] at found
      exact cancel_supersedes schedule uri generation found

end Schedule

end PythonAssist
