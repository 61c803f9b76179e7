import PythonAssist.Proofs.Schedule.Events

set_option autoImplicit false

namespace PythonAssist

structure CheckSlot (R : Type) where
  begun : Nat
  latest : Option Nat
  ended : List Nat
  published : List (Nat × R)

namespace CheckSlot

variable {T R : Type}

def fresh : CheckSlot R := { begun := 0, latest := none, ended := [], published := [] }

def advance (uri : Uri) (slot : CheckSlot R) : ScheduleEvent T R → CheckSlot R
  | .start other _ =>
    if other = uri then { slot with begun := slot.begun + 1, latest := some slot.begun } else slot
  | .cancel other | .forget other => if other = uri then { slot with latest := none } else slot
  | .cancelAll => { slot with latest := none }
  | .complete other number findings =>
    if other = uri ∧ number < slot.begun ∧ number ∉ slot.ended then
      { slot with
        ended := slot.ended ++ [number]
        published :=
          if slot.latest = some number then slot.published ++ [(number, findings)]
          else slot.published }
    else slot
  | .leave other number =>
    if other = uri ∧ number < slot.begun then { slot with ended := slot.ended ++ [number] } else slot

def ofEvents (uri : Uri) (events : List (ScheduleEvent T R)) : CheckSlot R :=
  events.foldl (advance uri) fresh

theorem advance_unconcerned {uri : Uri} {event : ScheduleEvent T R}
    (unconcerned : event.concerns uri = false) (slot : CheckSlot R) :
    slot.advance uri event = slot := by
  cases event <;> simp_all [ScheduleEvent.concerns, advance]

theorem ofEvents_filter (uri : Uri) (events : List (ScheduleEvent T R)) :
    ofEvents uri (events.filter (·.concerns uri)) = ofEvents uri events := by
  unfold ofEvents
  generalize fresh = slot
  induction events generalizing slot with
  | nil => rfl
  | cons event rest ih =>
    cases concerned : event.concerns uri with
    | true => simpa [concerned] using ih (slot.advance uri event)
    | false => simpa [concerned, advance_unconcerned concerned] using ih slot

theorem begun_foldl (uri : Uri) (events : List (ScheduleEvent T R)) (slot : CheckSlot R) :
    (events.foldl (advance uri) slot).begun = slot.begun + events.countP (·.begins uri) := by
  induction events generalizing slot with
  | nil => rfl
  | cons event rest ih =>
    rw [List.foldl_cons, ih, List.countP_cons]
    cases event
    case start other job =>
      by_cases same : other = uri <;> simp [advance, ScheduleEvent.begins, same]; omega
    all_goals simp [advance, ScheduleEvent.begins]; try split <;> rfl

theorem latest_advance {uri : Uri} {slot : CheckSlot R} {number : Nat}
    (known : number < slot.begun) (event : ScheduleEvent T R) :
    (slot.advance uri event).latest = some number ↔
      slot.latest = some number ∧ event.supersedes uri = false := by
  cases event
  case start other job =>
    by_cases same : other = uri
    next =>
      have newer : slot.begun ≠ number := by omega
      simp [advance, ScheduleEvent.supersedes, same, newer]
    next => simp [advance, ScheduleEvent.supersedes, same]
  case cancel other | forget other =>
    by_cases same : other = uri <;> simp [advance, ScheduleEvent.supersedes, same]
  case cancelAll => simp [advance, ScheduleEvent.supersedes]
  case complete | leave =>
    simp only [advance, ScheduleEvent.supersedes, and_true]
    split <;> rfl

theorem latest_foldl {uri : Uri} {slot : CheckSlot R} {number : Nat}
    (known : number < slot.begun) (events : List (ScheduleEvent T R)) :
    (events.foldl (advance uri) slot).latest = some number ↔
      slot.latest = some number ∧ ∀ event ∈ events, event.supersedes uri = false := by
  induction events generalizing slot with
  | nil => simp
  | cons event rest ih =>
    have later := begun_foldl uri [event] slot
    rw [List.foldl_cons, List.foldl_nil] at later
    rw [List.foldl_cons, ih (by omega), latest_advance known, List.forall_mem_cons, and_assoc]

theorem over_foldl {uri : Uri} {number : Nat} {events : List (ScheduleEvent T R)}
    (unended : ∀ event ∈ events, event.ends uri number = false) {slot : CheckSlot R}
    (waiting : number ∉ slot.ended) : number ∉ (events.foldl (advance uri) slot).ended := by
  induction events generalizing slot with
  | nil => exact waiting
  | cons event rest ih =>
    obtain ⟨first, others⟩ := List.forall_mem_cons.mp unended
    refine ih others ?_
    cases event
    case complete other n findings =>
      simp only [ScheduleEvent.ends, Bool.and_eq_false_iff, beq_eq_false_iff_ne] at first
      simp only [advance]
      split
      next now => simpa [waiting, eq_comm] using first.resolve_left (not_not_intro now.1)
      next => exact waiting
    case leave other n =>
      simp only [ScheduleEvent.ends, Bool.and_eq_false_iff, beq_eq_false_iff_ne] at first
      simp only [advance]
      split
      next now => simpa [waiting, eq_comm] using first.resolve_left (not_not_intro now.1)
      next => exact waiting
    all_goals simp only [advance]; try split
    all_goals exact waiting

structure Orderly (slot : CheckSlot R) : Prop where
  begun : ∀ number ∈ slot.ended, number < slot.begun
  ended : ∀ number ∈ slot.published.map Prod.fst, number ∈ slot.ended
  once : (slot.published.map Prod.fst).Nodup

theorem Orderly.end {slot : CheckSlot R} (orderly : Orderly slot) {number : Nat}
    (known : number < slot.begun) : Orderly { slot with ended := slot.ended ++ [number] } where
  begun n member := by
    rcases List.mem_append.mp member with old | new
    · exact orderly.begun n old
    · rwa [List.mem_singleton.mp new]
  ended n member := List.mem_append_left _ (orderly.ended n member)
  once := orderly.once

theorem Orderly.publish {slot : CheckSlot R} (orderly : Orderly slot) {number : Nat}
    (known : number < slot.begun) (waiting : number ∉ slot.ended) (findings : R) :
    Orderly
      { slot with
        ended := slot.ended ++ [number], published := slot.published ++ [(number, findings)] } where
  begun := (orderly.end known).begun
  ended n member := by
    rw [List.map_append, List.mem_append] at member
    rcases member with old | new
    · exact List.mem_append_left _ (orderly.ended n old)
    · exact List.mem_append_right _ (by simpa using new)
  once := by
    rw [List.map_append, List.nodup_append]
    refine ⟨orderly.once, by simp, fun n old m new same => ?_⟩
    obtain rfl : m = number := by simpa using new
    exact waiting (orderly.ended m (same ▸ old))

theorem Orderly.advance {slot : CheckSlot R} (orderly : Orderly slot) (uri : Uri)
    (event : ScheduleEvent T R) : Orderly (slot.advance uri event) := by
  cases event with
  | start other job =>
    simp only [CheckSlot.advance]
    split
    next =>
      exact ⟨fun n member => Nat.lt_succ_of_lt (orderly.begun n member), orderly.ended,
        orderly.once⟩
    next => exact orderly
  | cancel other | forget other =>
    simp only [CheckSlot.advance]
    split
    next => exact ⟨orderly.begun, orderly.ended, orderly.once⟩
    next => exact orderly
  | cancelAll => exact ⟨orderly.begun, orderly.ended, orderly.once⟩
  | complete other number findings =>
    simp only [CheckSlot.advance]
    split
    next now =>
      split
      next => exact orderly.publish now.2.1 now.2.2 findings
      next => exact orderly.end now.2.1
    next => exact orderly
  | leave other number =>
    simp only [CheckSlot.advance]
    split
    next now => exact orderly.end now.2
    next => exact orderly

theorem Orderly.foldl {slot : CheckSlot R} (orderly : Orderly slot) (uri : Uri)
    (events : List (ScheduleEvent T R)) : Orderly (events.foldl (CheckSlot.advance uri) slot) := by
  induction events generalizing slot with
  | nil => exact orderly
  | cons event rest ih => exact ih (orderly.advance uri event)

theorem ofEvents_orderly (uri : Uri) (events : List (ScheduleEvent T R)) :
    Orderly (ofEvents uri events) :=
  Orderly.foldl ⟨by simp [fresh], by simp [fresh], by simp [fresh]⟩ uri events

theorem begun_ofEvents (uri : Uri) (events : List (ScheduleEvent T R)) :
    (ofEvents uri events).begun = events.countP (·.begins uri) :=
  (begun_foldl uri events fresh).trans (Nat.zero_add _)

theorem mem_published_complete {uri : Uri} {slot : CheckSlot R} (orderly : Orderly slot)
    {number : Nat} (known : number < slot.begun) (waiting : number ∉ slot.ended) (findings : R) :
    (number, findings) ∈
        (slot.advance uri (.complete uri number findings : ScheduleEvent T R)).published ↔
      slot.latest = some number := by
  have silent : (number, findings) ∉ slot.published :=
    fun member => waiting (orderly.ended number (List.mem_map_of_mem member))
  simp only [advance, true_and, known, waiting, not_false_eq_true, if_true]
  split
  next latest => simp [latest]
  next replaced => simp [replaced, silent]

theorem mem_published_of_begun (before after : List (ScheduleEvent T R)) (uri : Uri) (job : T)
    (findings : R)
    (unended : ∀ event ∈ after, event.ends uri (before.countP (·.begins uri)) = false) :
    (before.countP (·.begins uri), findings) ∈
        (ofEvents uri (before ++ .start uri job :: after ++
          [.complete uri (before.countP (·.begins uri)) findings])).published ↔
      ∀ event ∈ after, event.supersedes uri = false := by
  have begun := begun_ofEvents uri before
  generalize before.countP (·.begins uri) = number at *
  have orderly := ofEvents_orderly uri before
  have ordered := (orderly.advance uri (.start uri job : ScheduleEvent T R)).foldl uri after
  have started : (ofEvents uri before).advance uri (.start uri job : ScheduleEvent T R) =
      { ofEvents uri before with begun := number + 1, latest := some number } := by
    simp [advance, begun]
  rw [started] at ordered
  have later : ofEvents uri (before ++ .start uri job :: after) = after.foldl (advance uri)
      { ofEvents uri before with begun := number + 1, latest := some number } := by
    rw [← started, ofEvents, List.foldl_append]
    rfl
  have waiting : number ∉ (ofEvents uri (before ++ .start uri job :: after)).ended := by
    rw [later]
    refine over_foldl unended fun member => ?_
    exact absurd (orderly.begun number member) (by omega)
  have known : number < (ofEvents uri (before ++ .start uri job :: after)).begun := by
    rw [later, begun_foldl]
    exact Nat.lt_add_right _ (Nat.lt_succ_self number)
  rw [ofEvents, List.foldl_append, ← ofEvents, List.foldl_cons, List.foldl_nil,
    mem_published_complete (later ▸ ordered) known waiting, later,
    latest_foldl (Nat.lt_succ_self number)]
  simp

end CheckSlot

namespace ScheduleRun

open Schedule

variable {T R : Type} {uri : Uri} {run after : ScheduleRun T R} {slot : CheckSlot R}

-- The slot of a document is what the schedule does for it. The generation of the document is that
-- of its latest check, and as long as this check is to come its task is listed, so that dropping
-- every listed task drops it too.
structure Agrees (uri : Uri) (run : ScheduleRun T R) (slot : CheckSlot R) : Prop where
  begun : (run.begun uri).length = slot.begun
  ended : run.ended uri = slot.ended
  published : run.published uri = slot.published
  bounded : ∀ generation ∈ run.begun uri, generation ≤ run.schedule.last
  distinct : (run.begun uri).Nodup
  latest : ∀ number generation, (run.begun uri)[number]? = some generation →
    number ∉ slot.ended →
    (run.schedule.generation? uri = some generation ↔ slot.latest = some number)
  listed : ∀ number generation, (run.begun uri)[number]? = some generation →
    number ∉ slot.ended → run.schedule.generation? uri = some generation →
    ∃ task, run.schedule.tasks.find? uri = some task ∧ task.generation = generation ∧
      task.finished = false

theorem fresh_agrees (uri : Uri) : Agrees uri (fresh : ScheduleRun T R) .fresh where
  begun := rfl
  ended := rfl
  published := rfl
  bounded _ member := absurd member List.not_mem_nil
  distinct := List.nodup_nil
  latest _ _ found := by cases found
  listed _ _ found := by cases found

structure KeepsRecord (uri : Uri) (run after : ScheduleRun T R) : Prop where
  begun : after.begun uri = run.begun uri
  ended : after.ended uri = run.ended uri
  published : after.published uri = run.published uri

theorem Agrees.spare (agrees : Agrees uri run slot) (keeps : KeepsRecord uri run after)
    (spares : Spares uri run.schedule after.schedule) : Agrees uri after slot where
  begun := keeps.begun ▸ agrees.begun
  ended := keeps.ended ▸ agrees.ended
  published := keeps.published ▸ agrees.published
  bounded := fun generation member =>
    Nat.le_trans (agrees.bounded generation (keeps.begun ▸ member)) spares.last
  distinct := keeps.begun ▸ agrees.distinct
  latest := by
    rw [keeps.begun, spares.generation]
    exact agrees.latest
  listed := by
    rw [keeps.begun, spares.generation]
    intro number generation found waiting current
    obtain ⟨task, isListed, same, running⟩ := agrees.listed number generation found waiting current
    exact ⟨task, spares.task task isListed running, same, running⟩

theorem Agrees.drop (agrees : Agrees uri run slot) (keeps : KeepsRecord uri run after)
    (last : run.schedule.last ≤ after.schedule.last)
    (supersedes : Supersedes uri run.schedule after.schedule) :
    Agrees uri after { slot with latest := none } := by
  have outdated : ∀ number generation : Nat, (run.begun uri)[number]? = some generation →
      after.schedule.generation? uri ≠ some generation := by
    intro number generation found current
    have old := agrees.bounded generation (List.mem_of_getElem? found)
    have new := supersedes generation current
    omega
  refine ⟨keeps.begun ▸ agrees.begun, keeps.ended ▸ agrees.ended, keeps.published ▸ agrees.published,
    ?_, keeps.begun ▸ agrees.distinct, ?_, ?_⟩
  all_goals rw [keeps.begun]
  · exact fun generation member => Nat.le_trans (agrees.bounded generation member) last
  · intro number generation found _
    simp [outdated number generation found]
  · exact fun number generation found _ current =>
      absurd current (outdated number generation found)

theorem Agrees.start (agrees : Agrees uri run slot) (job : T) :
    Agrees uri (run.advance (.start uri job) : ScheduleRun T R)
      { slot with begun := slot.begun + 1, latest := some slot.begun } := by
  have begun : (run.advance (.start uri job)).begun uri =
      run.begun uri ++ [run.schedule.last + 1] := addFor_self uri _ run.begun
  have fresh : ∀ generation ∈ run.begun uri, generation < run.schedule.last + 1 :=
    fun generation member => Nat.lt_succ_of_le (agrees.bounded generation member)
  have cases : ∀ number generation : Nat,
      (run.begun uri ++ [run.schedule.last + 1])[number]? = some generation →
      number < slot.begun ∧ generation < run.schedule.last + 1 ∨
        number = slot.begun ∧ generation = run.schedule.last + 1 := by
    intro number generation found
    rw [← agrees.begun]
    by_cases old : number < (run.begun uri).length
    next =>
      rw [List.getElem?_append_left old] at found
      exact .inl ⟨old, fresh generation (List.mem_of_getElem? found)⟩
    next =>
      rw [List.getElem?_append_right (Nat.le_of_not_lt old), List.getElem?_singleton] at found
      split at found
      next => exact .inr ⟨by omega, (Option.some.inj found).symm⟩
      next => cases found
  have current : (run.schedule.start uri job).generation? uri =
      some (run.schedule.last + 1) := by
    rw [generation?_start, if_pos rfl]
  refine ⟨?_, agrees.ended, agrees.published, ?_, ?_, ?_, ?_⟩
  all_goals rw [begun]
  · simp [agrees.begun]
  · intro generation member
    rcases List.mem_append.mp member with old | new
    · exact Nat.le_of_lt (fresh generation old)
    · exact Nat.le_of_eq (List.mem_singleton.mp new)
  · rw [List.nodup_append]
    refine ⟨agrees.distinct, by simp, fun a old b new => ?_⟩
    rw [List.mem_singleton.mp new]
    exact Nat.ne_of_lt (fresh a old)
  · intro number generation found _
    show (run.schedule.start uri job).generation? uri = some generation ↔
      some slot.begun = some number
    rw [current, Option.some.injEq, Option.some.injEq]
    have := cases number generation found
    omega
  · intro number generation found _ same
    have same : (run.schedule.start uri job).generation? uri = some generation := same
    rw [current, Option.some.injEq] at same
    refine ⟨{ generation := run.schedule.last + 1, job, finished := false }, ?_, same, rfl⟩
    show (Table.insert _ uri _).find? uri = _
    rw [Table.find?_insert, if_pos rfl]
    rfl

theorem Agrees.cancelAll (agrees : Agrees uri run slot) :
    Agrees uri (run.advance .cancelAll) { slot with latest := none } := by
  obtain ⟨schedule, begun, ended, published⟩ := foldl_cancel run.schedule.tasks.keys run
  have keeps : KeepsRecord uri run (run.advance .cancelAll) :=
    ⟨congrFun begun uri, congrFun ended uri, congrFun published uri⟩
  by_cases listed : uri ∈ run.schedule.tasks.keys
  next =>
    refine agrees.drop keeps ?_ ?_
    · exact schedule ▸ foldl_cancel_last _ _
    · exact schedule ▸ foldl_cancel_supersedes listed _
  next =>
    -- No check of the document is to come whose generation is current, or its task were listed.
    have spared := agrees.spare keeps (schedule ▸ foldl_cancel_spares listed run.schedule)
    have outdated : ∀ number generation : Nat, (run.begun uri)[number]? = some generation →
        number ∉ slot.ended → run.schedule.generation? uri ≠ some generation := by
      intro number generation found waiting current
      obtain ⟨task, isListed, -⟩ := agrees.listed number generation found waiting current
      exact listed (Table.mem_keys_of_find? isListed)
    refine ⟨spared.begun, spared.ended, spared.published, spared.bounded, spared.distinct, ?_,
      spared.listed⟩
    intro number generation found waiting
    rw [keeps.begun] at found
    have same := spared.latest number generation (by rw [keeps.begun]; exact found) waiting
    have before := agrees.latest number generation found waiting
    have := outdated number generation found waiting
    simp only [reduceCtorEq, iff_false]
    rw [same, ← before]
    exact this

theorem Agrees.begun_iff (agrees : Agrees uri run slot) {number : Nat} :
    (∃ generation, (run.begun uri)[number]? = some generation) ↔ number < slot.begun := by
  rw [← agrees.begun, ← Option.isSome_iff_exists]
  simp

theorem Agrees.complete (agrees : Agrees uri run slot) (number : Nat) (findings : R) :
    Agrees uri (run.advance (.complete uri number findings))
      (slot.advance uri (.complete uri number findings : ScheduleEvent T R)) := by
  cases found : (run.begun uri)[number]? with
  | none =>
    have missing : ¬ number < slot.begun := by simp [← agrees.begun_iff, found]
    simpa [ScheduleRun.advance, CheckSlot.advance, found, missing] using agrees
  | some generation =>
    have known : number < slot.begun := agrees.begun_iff.mp ⟨generation, found⟩
    have same := agrees.ended
    by_cases waiting : number ∈ slot.ended
    next => simpa [ScheduleRun.advance, CheckSlot.advance, found, known, same, waiting] using agrees
    next =>
      have current : run.schedule.isCurrent uri generation = true ↔ slot.latest = some number := by
        rw [isCurrent, beq_iff_eq]
        exact agrees.latest number generation found waiting
      simp only [ScheduleRun.advance, CheckSlot.advance, found, known, same, waiting, current,
        not_false_eq_true, and_self, if_true, if_false]
      refine ⟨agrees.begun, ?_, ?_, agrees.bounded, agrees.distinct, ?_, ?_⟩
      · exact (addFor_self uri number run.ended).trans (by rw [same])
      · by_cases latest : slot.latest = some number
        next =>
          simp only [latest, if_true]
          exact (addFor_self uri _ run.published).trans (by rw [agrees.published])
        next =>
          simp only [latest, if_false]
          exact agrees.published
      · intro n g isBegun others
        exact agrees.latest n g isBegun fun member => others (List.mem_append_left _ member)
      · intro n g isBegun others
        exact agrees.listed n g isBegun fun member => others (List.mem_append_left _ member)

theorem Agrees.leave (agrees : Agrees uri run slot) (number : Nat) :
    Agrees uri (run.advance (.leave uri number))
      (slot.advance uri (.leave uri number : ScheduleEvent T R)) := by
  cases found : (run.begun uri)[number]? with
  | none =>
    have missing : ¬ number < slot.begun := by simp [← agrees.begun_iff, found]
    simpa [ScheduleRun.advance, CheckSlot.advance, found, missing] using agrees
  | some generation =>
    have known : number < slot.begun := agrees.begun_iff.mp ⟨generation, found⟩
    simp only [ScheduleRun.advance, CheckSlot.advance, found, known, and_self, if_true]
    obtain ⟨generations, last⟩ := markFinished_generations run.schedule uri generation
    have same : (run.schedule.markFinished uri generation).generation? uri =
        run.schedule.generation? uri := by
      rw [generation?, generations]
      rfl
    refine ⟨agrees.begun, ?_, agrees.published, ?_, agrees.distinct, ?_, ?_⟩
    · exact (addFor_self uri number run.ended).trans (by rw [agrees.ended])
    · exact last ▸ agrees.bounded
    · intro n g isBegun others
      rw [same]
      exact agrees.latest n g isBegun fun member => others (List.mem_append_left _ member)
    · intro n g isBegun others current
      rw [same] at current
      obtain ⟨task, isListed, itsGeneration, running⟩ := agrees.listed n g isBegun
        (fun member => others (List.mem_append_left _ member)) current
      have different : g ≠ generation := by
        rintro rfl
        have inside : number < (run.begun uri).length := agrees.begun ▸ known
        have := (List.getElem?_inj inside agrees.distinct).mp (found.trans isBegun.symm)
        exact others (List.mem_append_right _ (by simp [this]))
      refine ⟨task, ?_, itsGeneration, running⟩
      exact find?_markFinished run.schedule generation isListed fun _ => itsGeneration ▸ different

theorem Agrees.advance (agrees : Agrees uri run slot) (event : ScheduleEvent T R) :
    Agrees uri (run.advance event) (slot.advance uri event) := by
  cases event with
  | start other job =>
    by_cases same : other = uri
    next =>
      subst same
      simpa [CheckSlot.advance] using agrees.start job
    next =>
      have different : uri ≠ other := fun e => same e.symm
      simp only [CheckSlot.advance, same, if_false]
      exact agrees.spare ⟨addFor_of_ne different _ _, rfl, rfl⟩ (start_spares different _ job)
  | cancel other =>
    by_cases same : other = uri
    next =>
      subst same
      simp only [CheckSlot.advance, if_true]
      exact agrees.drop ⟨rfl, rfl, rfl⟩ (Nat.le_succ _) (cancel_supersedes _ _)
    next =>
      simp only [CheckSlot.advance, same, if_false]
      exact agrees.spare ⟨rfl, rfl, rfl⟩ (cancel_spares (fun e => same e.symm) _)
  | forget other =>
    by_cases same : other = uri
    next =>
      subst same
      simp only [CheckSlot.advance, if_true]
      exact agrees.drop ⟨rfl, rfl, rfl⟩ (Nat.le_refl _) (forget_supersedes _ _)
    next =>
      simp only [CheckSlot.advance, same, if_false]
      exact agrees.spare ⟨rfl, rfl, rfl⟩ (forget_spares (fun e => same e.symm) _)
  | cancelAll => exact agrees.cancelAll
  | complete other number findings =>
    by_cases same : other = uri
    next =>
      subst same
      exact agrees.complete number findings
    next =>
      have different : uri ≠ other := fun e => same e.symm
      simp only [ScheduleRun.advance, CheckSlot.advance, same, false_and, if_false]
      repeat' split
      · exact agrees
      · exact agrees
      · exact agrees.spare ⟨rfl, addFor_of_ne different _ _, addFor_of_ne different _ _⟩ (.refl _ _)
      · exact agrees.spare ⟨rfl, addFor_of_ne different _ _, rfl⟩ (.refl _ _)
  | leave other number =>
    by_cases same : other = uri
    next =>
      subst same
      exact agrees.leave number
    next =>
      have different : uri ≠ other := fun e => same e.symm
      simp only [ScheduleRun.advance, CheckSlot.advance, same, false_and, if_false]
      split
      next => exact agrees
      next generation _ =>
        exact agrees.spare ⟨rfl, addFor_of_ne different _ _, rfl⟩
          (markFinished_spares _ generation fun e => absurd e different)

theorem Agrees.foldl (agrees : Agrees uri run slot) (events : List (ScheduleEvent T R)) :
    Agrees uri (events.foldl ScheduleRun.advance run)
      (events.foldl (CheckSlot.advance uri) slot) := by
  induction events generalizing run slot with
  | nil => exact agrees
  | cons event rest ih => exact ih (agrees.advance event)

theorem ofEvents_agrees (uri : Uri) (events : List (ScheduleEvent T R)) :
    Agrees uri (ofEvents events) (.ofEvents uri events) :=
  (fresh_agrees uri).foldl events

end ScheduleRun

open ScheduleRun

-- A check that completes is published if and only if nothing has superseded it since it began;
-- none is published twice; what is published for a document depends on its own events alone; and
-- no generation is received twice.
theorem only_latest_check_publishes (T R : Type) :
    (∀ (before after : List (ScheduleEvent T R)) (uri : Uri) (job : T) (findings : R),
      let number := before.countP (·.begins uri)
      let events := before ++ .start uri job :: after
      (∀ event ∈ after, event.ends uri number = false) →
      ((number, findings) ∈ (ofEvents (events ++ [.complete uri number findings])).published uri ↔
        ∀ event ∈ after, event.supersedes uri = false)) ∧
    (∀ (events : List (ScheduleEvent T R)) (uri : Uri),
      (((ofEvents events).published uri).map Prod.fst).Nodup ∧
        (ofEvents events).published uri =
          (ofEvents (events.filter (·.concerns uri))).published uri) ∧
    ∀ events : List (ScheduleEvent T R), (ofEvents events).given.Nodup := by
  refine ⟨?_, fun events uri => ⟨?_, ?_⟩, fun events => ?_⟩
  · intro before after uri job findings number events unended
    rw [(ofEvents_agrees uri _).published]
    exact CheckSlot.mem_published_of_begun before after uri job findings unended
  · rw [(ofEvents_agrees uri events).published]
    exact (CheckSlot.ofEvents_orderly uri events).once
  · rw [(ofEvents_agrees uri events).published, (ofEvents_agrees uri _).published,
      CheckSlot.ofEvents_filter]
  · exact (fresh_ascends.foldl_advance events).ascending.imp Nat.ne_of_lt

theorem check_of_reopened_document_publishes :
    let mine : Uri := ⟨"file:///a.py"⟩
    let other : Uri := ⟨"file:///b.py"⟩
    let before : List (ScheduleEvent Unit String) := [.start mine (), .forget mine]
    let after : List (ScheduleEvent Unit String) :=
      [.start other (), .complete mine 0 "of the old text", .cancel other]
    (∀ event ∈ after, event.ends mine 1 = false) ∧
      (1, "of the new text") ∈ (ofEvents (before ++ .start mine () :: after ++
        [.complete mine 1 "of the new text"])).published mine := by
  intro mine other before after
  have unended : ∀ event ∈ after, event.ends mine 1 = false := by decide
  have quiet : ∀ event ∈ after, event.supersedes mine = false := by decide
  exact ⟨unended, ((only_latest_check_publishes Unit String).1 before after mine ()
    "of the new text" unended).mpr quiet⟩

end PythonAssist
