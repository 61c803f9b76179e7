import Mathlib.Logic.Relation
import PythonAssist.Schedule

set_option autoImplicit false

namespace PythonAssist

namespace Table

variable {K V : Type} [DecidableEq K]

theorem mem_of_lookup {key : K} {value : V} {entries : List (K × V)}
    (found : lookup key entries = some value) : (key, value) ∈ entries := by
  induction entries with
  | nil => cases found
  | cons entry rest ih =>
    obtain ⟨k, v⟩ := entry
    unfold lookup at found
    split at found
    next same =>
      cases found
      simp [same]
    next => exact List.mem_cons_of_mem _ (ih found)

theorem mem_erase {table : Table K V} {key : K} {entry : K × V} :
    entry ∈ (table.erase key).entries ↔ entry ∈ table.entries ∧ entry.1 ≠ key := by
  simp [erase]

theorem mem_insert {table : Table K V} {key : K} {value : V} {entry : K × V} :
    entry ∈ (table.insert key value).entries ↔
      entry ∈ table.entries ∧ entry.1 ≠ key ∨ entry = (key, value) := by
  show entry ∈ (table.erase key).entries ++ [(key, value)] ↔ _
  rw [List.mem_append, mem_erase, List.mem_singleton]

end Table

namespace Schedule

variable {T : Type}

inductive Step : Schedule T → Schedule T → Prop
  | cancel (schedule : Schedule T) (uri : Uri) : Step schedule (schedule.cancel uri)
  | start (schedule : Schedule T) (uri : Uri) (job : T) : Step schedule (schedule.start uri job)
  | forget (schedule : Schedule T) (uri : Uri) : Step schedule (schedule.forget uri)
  | finish (schedule : Schedule T) (uri : Uri) (generation : Nat) :
      Step schedule (schedule.markFinished uri generation)

def Runs : Schedule T → Schedule T → Prop := Relation.ReflTransGen Step

theorem Runs.refl (schedule : Schedule T) : Runs schedule schedule := Relation.ReflTransGen.refl

theorem Step.runs {before after : Schedule T} (step : Step before after) : Runs before after :=
  Relation.ReflTransGen.single step

theorem Runs.trans {before middle after : Schedule T} (first : Runs before middle)
    (second : Runs middle after) : Runs before after :=
  Relation.ReflTransGen.trans first second

theorem cancelAll_runs (schedule : Schedule T) : Runs schedule schedule.cancelAll := by
  unfold cancelAll
  generalize schedule.tasks.keys = uris
  induction uris generalizing schedule with
  | nil => exact .refl schedule
  | cons uri rest ih => exact (Step.cancel schedule uri).runs.trans (ih _)

theorem generation?_cancel (schedule : Schedule T) (uri key : Uri) :
    (schedule.cancel uri).generation? key =
      if key = uri then some (schedule.last + 1) else schedule.generation? key :=
  Table.find?_insert schedule.generations key uri _

theorem generation?_start (schedule : Schedule T) (uri key : Uri) (job : T) :
    (schedule.start uri job).generation? key =
      if key = uri then some (schedule.last + 1) else schedule.generation? key :=
  generation?_cancel schedule uri key

theorem generation?_forget (schedule : Schedule T) (uri key : Uri) :
    (schedule.forget uri).generation? key =
      if key = uri then none else schedule.generation? key :=
  Table.find?_erase schedule.generations key uri

theorem markFinished_generations (schedule : Schedule T) (uri : Uri) (generation : Nat) :
    (schedule.markFinished uri generation).generations = schedule.generations ∧
      (schedule.markFinished uri generation).last = schedule.last := by
  unfold markFinished
  split
  next => exact ⟨rfl, rfl⟩
  next => split <;> exact ⟨rfl, rfl⟩

structure Advances (before after : Schedule T) : Prop where
  last : before.last ≤ after.last
  generation : ∀ uri generation, after.generation? uri = some generation →
    generation ≤ before.last → before.generation? uri = some generation

theorem cancel_advances (schedule : Schedule T) (uri : Uri) :
    Advances schedule (schedule.cancel uri) := by
  refine ⟨Nat.le_succ _, fun key generation found old => ?_⟩
  rw [generation?_cancel] at found
  split at found
  next =>
    cases found
    omega
  next => exact found

theorem Step.advances {before after : Schedule T} (step : Step before after) :
    Advances before after := by
  cases step with
  | cancel uri => exact cancel_advances before uri
  | start uri job =>
    have cancelled := cancel_advances before uri
    exact ⟨cancelled.last, cancelled.generation⟩
  | forget uri =>
    refine ⟨Nat.le_refl _, fun key generation found _ => ?_⟩
    rw [generation?_forget] at found
    split at found
    next => cases found
    next => exact found
  | finish uri generation =>
    obtain ⟨generations, last⟩ := markFinished_generations before uri generation
    refine ⟨Nat.le_of_eq last.symm, fun key generation found _ => ?_⟩
    rwa [generation?, generations] at found

theorem Runs.advances {before after : Schedule T} (runs : Runs before after) :
    Advances before after := by
  induction runs with
  | refl => exact ⟨Nat.le_refl _, fun _ _ found _ => found⟩
  | tail _ step ih =>
    have further := step.advances
    refine ⟨Nat.le_trans ih.last further.last, fun uri generation found old => ?_⟩
    have before := further.generation uri generation found (Nat.le_trans old ih.last)
    exact ih.generation uri generation before old

structure Sound (schedule : Schedule T) : Prop where
  bounded : ∀ uri generation, schedule.generation? uri = some generation →
    generation ≤ schedule.last
  current : ∀ entry ∈ schedule.tasks.entries,
    schedule.generation? entry.1 = some entry.2.generation

theorem Sound.empty : Sound (empty : Schedule T) := by
  refine ⟨fun uri generation found => ?_, fun entry member => ?_⟩
  · cases found
  · cases member

theorem Sound.cancel {schedule : Schedule T} (sound : Sound schedule) (uri : Uri) :
    Sound (schedule.cancel uri) := by
  refine ⟨fun key generation found => ?_, fun entry member => ?_⟩
  next =>
    show generation ≤ schedule.last + 1
    rw [generation?_cancel] at found
    split at found
    next =>
      cases found
      exact Nat.le_refl _
    next => exact Nat.le_succ_of_le (sound.bounded key generation found)
  next =>
    obtain ⟨before, different⟩ := Table.mem_erase.mp member
    rw [generation?_cancel, if_neg different]
    exact sound.current entry before

theorem mem_start {schedule : Schedule T} {uri : Uri} {job : T} {entry : Uri × Task T}
    (member : entry ∈ (schedule.start uri job).tasks.entries) :
    entry ∈ (schedule.cancel uri).tasks.entries ∨
      entry = (uri, { generation := schedule.last + 1, job, finished := false }) := by
  rcases Table.mem_insert.mp member with ⟨kept, -⟩ | new
  · exact .inl (List.mem_filter.mp kept).1
  · exact .inr new

theorem mem_cancelAll {schedule : Schedule T} {entry : Uri × Task T}
    (member : entry ∈ schedule.cancelAll.tasks.entries) : entry ∈ schedule.tasks.entries := by
  unfold cancelAll at member
  generalize schedule.tasks.keys = uris at member
  induction uris generalizing schedule with
  | nil => exact member
  | cons uri rest ih => exact (Table.mem_erase.mp (ih member)).1

theorem Sound.start {schedule : Schedule T} (sound : Sound schedule) (uri : Uri) (job : T) :
    Sound (schedule.start uri job) := by
  have cancelled := sound.cancel uri
  refine ⟨cancelled.bounded, fun entry member => ?_⟩
  rcases mem_start member with before | rfl
  next => exact cancelled.current entry before
  next => rw [generation?_start, if_pos rfl]

theorem Sound.forget {schedule : Schedule T} (sound : Sound schedule) (uri : Uri) :
    Sound (schedule.forget uri) := by
  refine ⟨fun key generation found => ?_, fun entry member => ?_⟩
  next =>
    rw [generation?_forget] at found
    split at found
    next => cases found
    next => exact sound.bounded key generation found
  next =>
    obtain ⟨before, different⟩ := Table.mem_erase.mp member
    rw [generation?_forget, if_neg different]
    exact sound.current entry before

theorem mem_markFinished {schedule : Schedule T} {uri : Uri} {generation : Nat}
    {entry : Uri × Task T} (member : entry ∈ (schedule.markFinished uri generation).tasks.entries) :
    ∃ task, (entry.1, task) ∈ schedule.tasks.entries ∧ task.generation = entry.2.generation ∧
      task.job = entry.2.job := by
  unfold markFinished at member
  split at member
  next => exact ⟨entry.2, member, rfl, rfl⟩
  next task found =>
    split at member
    next =>
      rcases Table.mem_insert.mp member with ⟨kept, -⟩ | rfl
      · exact ⟨entry.2, kept, rfl, rfl⟩
      · exact ⟨task, Table.mem_of_lookup found, rfl, rfl⟩
    next => exact ⟨entry.2, member, rfl, rfl⟩

theorem Sound.finish {schedule : Schedule T} (sound : Sound schedule) (uri : Uri)
    (generation : Nat) : Sound (schedule.markFinished uri generation) := by
  obtain ⟨generations, last⟩ := markFinished_generations schedule uri generation
  refine ⟨fun key found known => ?_, fun entry member => ?_⟩
  next =>
    rw [generation?, generations] at known
    rw [last]
    exact sound.bounded key found known
  next =>
    obtain ⟨task, before, same, -⟩ := mem_markFinished member
    rw [generation?, generations, ← same]
    exact sound.current _ before

theorem Runs.sound {before after : Schedule T} (runs : Runs before after) (sound : Sound before) :
    Sound after := by
  induction runs with
  | refl => exact sound
  | tail _ step ih =>
    cases step with
    | cancel uri => exact ih.cancel uri
    | start uri job => exact ih.start uri job
    | forget uri => exact ih.forget uri
    | finish uri generation => exact ih.finish uri generation

def Supersedes (uri : Uri) (before after : Schedule T) : Prop :=
  ∀ generation, after.generation? uri = some generation → before.last < generation

theorem cancel_supersedes (schedule : Schedule T) (uri : Uri) :
    Supersedes uri schedule (schedule.cancel uri) := by
  intro generation found
  rw [generation?_cancel, if_pos rfl] at found
  cases found
  exact Nat.lt_succ_self _

theorem start_supersedes (schedule : Schedule T) (uri : Uri) (job : T) :
    Supersedes uri schedule (schedule.start uri job) :=
  cancel_supersedes schedule uri

theorem forget_supersedes (schedule : Schedule T) (uri : Uri) :
    Supersedes uri schedule (schedule.forget uri) := by
  intro generation found
  rw [generation?_forget, if_pos rfl] at found
  cases found

end Schedule

end PythonAssist
