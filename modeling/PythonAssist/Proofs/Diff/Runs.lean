import Mathlib.Data.List.DropRight
import PythonAssist.Proofs.Diff.Records
import PythonAssist.Proofs.Text.Splitting

set_option autoImplicit false

namespace PythonAssist

def LineChange.isChange : LineChange → Bool
  | .unchanged _ => false
  | .removed _ => true
  | .inserted _ => true

def LineChange.isInserted : LineChange → Bool
  | .inserted _ => true
  | _ => false

namespace LineChange

structure Run where
  before : List LineChange
  body : List LineChange
  after : List LineChange
  deriving DecidableEq, Repr

structure Run.Maximal (run : Run) (changes : List LineChange) : Prop where
  joined : changes = run.before ++ run.body ++ run.after
  filled : run.body ≠ []
  changed : ∀ change ∈ run.body, change.isChange = true
  begins : ∀ change ∈ run.before.getLast?, change.isChange = false
  ends : ∀ change ∈ run.after.head?, change.isChange = false

def Run.whenFilled (run : Run) : List Run := if run.body.isEmpty then [] else [run]

def runsFrom (before body : List LineChange) : List LineChange → List Run
  | [] => Run.whenFilled ⟨before, body, []⟩
  | change :: rest =>
    if change.isChange then runsFrom before (body ++ [change]) rest
    else Run.whenFilled ⟨before, body, change :: rest⟩ ++
      runsFrom (before ++ body ++ [change]) [] rest

def runs (changes : List LineChange) : List Run := runsFrom [] [] changes

theorem mem_whenFilled {run cut : Run} : run ∈ cut.whenFilled ↔ cut.body ≠ [] ∧ run = cut := by
  unfold Run.whenFilled
  split <;> simp_all

theorem pairwise_whenFilled (run : Run) {later : Run → Run → Prop} :
    run.whenFilled.Pairwise later := by
  unfold Run.whenFilled
  split <;> simp

theorem changes_append_inj {body body' rest rest' : List LineChange}
    (changed : ∀ change ∈ body, change.isChange = true)
    (changed' : ∀ change ∈ body', change.isChange = true)
    (ends : ∀ change ∈ rest.head?, change.isChange = false)
    (ends' : ∀ change ∈ rest'.head?, change.isChange = false)
    (same : body ++ rest = body' ++ rest') : body = body' ∧ rest = rest' := by
  obtain rfl : body = body' := by
    rw [← takeWhile_append_eq changed ends, same, takeWhile_append_eq changed' ends']
  exact ⟨rfl, List.append_cancel_left same⟩

structure Begun (before body : List LineChange) : Prop where
  changed : ∀ change ∈ body, change.isChange = true
  begins : ∀ change ∈ before.getLast?, change.isChange = false

namespace Begun

variable {before body : List LineChange} {change : LineChange}

theorem start : Begun [] [] := ⟨by simp, by simp⟩

theorem extend (begun : Begun before body) (isChange : change.isChange = true) :
    Begun before (body ++ [change]) :=
  ⟨by simpa [or_imp, forall_and] using ⟨begun.changed, isChange⟩, begun.begins⟩

theorem restart (stops : ¬ change.isChange = true) : Begun (before ++ [change]) [] :=
  ⟨by simp, by simpa using stops⟩

theorem maximal {rest : List LineChange} (begun : Begun before body) (filled : body ≠ [])
    (ends : ∀ change ∈ rest.head?, change.isChange = false) :
    Run.Maximal ⟨before, body, rest⟩ (before ++ body ++ rest) :=
  ⟨rfl, filled, begun.changed, begun.begins, ends⟩

end Begun

theorem Run.Maximal.eq_or_later {run : Run} {before body rest : List LineChange}
    (maximal : run.Maximal (before ++ body ++ rest)) (begun : Begun before body)
    (ends : ∀ change ∈ rest.head?, change.isChange = false)
    (later : before.length ≤ run.before.length) :
    run = ⟨before, body, rest⟩ ∨ (before ++ body).length < run.before.length := by
  obtain ⟨front, inner, behind⟩ := run
  have joined := maximal.joined
  simp only [List.append_assoc] at joined
  have prior : before <+: front := by
    refine List.prefix_of_prefix_length_le (List.prefix_append before (body ++ rest)) ?_ later
    exact ⟨inner ++ behind, joined.symm⟩
  obtain ⟨gap, rfl⟩ := prior
  rw [List.append_assoc, List.append_cancel_left_eq] at joined
  rcases gap.eq_nil_or_concat' with rfl | ⟨start, last, rfl⟩
  next =>
    obtain ⟨rfl, rfl⟩ := changes_append_inj begun.changed maximal.changed ends maximal.ends joined
    left
    rw [List.append_nil]
  next =>
    right
    have stops : last.isChange = false := maximal.begins last (by simp)
    have longer : ¬ (start ++ [last]).length ≤ body.length := by
      intro within
      have inside : start ++ [last] <+: body := by
        refine List.prefix_of_prefix_length_le ?_ (List.prefix_append body rest) within
        rw [joined]
        exact List.prefix_append _ _
      have changed := begun.changed last (inside.subset (by simp))
      rw [stops] at changed
      cases changed
    simp only [List.length_append] at longer ⊢
    omega

theorem mem_runsFrom {before body rest : List LineChange} {run : Run} (begun : Begun before body) :
    run ∈ runsFrom before body rest ↔
      run.Maximal (before ++ body ++ rest) ∧ before.length ≤ run.before.length := by
  fun_induction runsFrom before body rest with
  | case1 before body =>
    rw [mem_whenFilled]
    constructor
    · rintro ⟨filled, rfl⟩
      exact ⟨begun.maximal filled (by simp), Nat.le_refl _⟩
    · rintro ⟨maximal, later⟩
      rcases maximal.eq_or_later begun (by simp) later with rfl | behind
      next => exact ⟨maximal.filled, rfl⟩
      next =>
        have whole := congrArg List.length maximal.joined
        simp only [List.length_append, List.length_nil] at whole behind
        omega
  | case2 before body change rest isChange ih =>
    rw [ih (begun.extend isChange), List.append_assoc, List.append_assoc, List.append_assoc,
      List.singleton_append]
  | case3 before body change rest stops ih =>
    have ends : ∀ other ∈ (change :: rest).head?, other.isChange = false := by simpa using stops
    rw [List.mem_append, mem_whenFilled, ih (.restart stops), List.append_nil,
      ← List.append_cons (before ++ body), @List.length_append _ _ [change],
      List.length_singleton]
    constructor
    · rintro (⟨filled, rfl⟩ | ⟨maximal, later⟩)
      next => exact ⟨begun.maximal filled ends, Nat.le_refl _⟩
      next =>
        rw [List.length_append] at later
        exact ⟨maximal, by omega⟩
    · rintro ⟨maximal, later⟩
      rcases maximal.eq_or_later begun ends later with rfl | behind
      next => exact .inl ⟨maximal.filled, rfl⟩
      next => exact .inr ⟨maximal, behind⟩

theorem mem_runs {changes : List LineChange} {run : Run} :
    run ∈ runs changes ↔ run.Maximal changes := by
  rw [runs, mem_runsFrom .start]
  simp

theorem runsFrom_ordered {before body : List LineChange} (begun : Begun before body)
    (rest : List LineChange) :
    (runsFrom before body rest).Pairwise fun run next =>
      run.before.length < next.before.length := by
  fun_induction runsFrom before body rest with
  | case1 before body => exact pairwise_whenFilled _
  | case2 before body change rest isChange ih => exact ih (begun.extend isChange)
  | case3 before body change rest stops ih =>
    refine List.pairwise_append.mpr ⟨pairwise_whenFilled _, ih (.restart stops), ?_⟩
    intro run first next later
    obtain ⟨-, rfl⟩ := mem_whenFilled.mp first
    have behind := ((mem_runsFrom (.restart stops)).mp later).2
    simp only [List.length_append, List.length_singleton] at behind ⊢
    omega

theorem runs_ordered (changes : List LineChange) :
    (runs changes).Pairwise fun run next => run.before.length < next.before.length :=
  runsFrom_ordered .start changes

theorem exists_maximal (before : List LineChange) {change : LineChange}
    (isChange : change.isChange = true) (after : List LineChange) :
    ∃ run front back, Run.Maximal run (before ++ change :: after) ∧
      run.body = front ++ change :: back ∧ before = run.before ++ front := by
  let run : Run :=
    { before := before.rdropWhile LineChange.isChange
      body := before.rtakeWhile LineChange.isChange ++
        change :: after.takeWhile LineChange.isChange
      after := after.dropWhile LineChange.isChange }
  have cutBefore : before = run.before ++ before.rtakeWhile LineChange.isChange :=
    List.rdropWhile_append_rtakeWhile.symm
  have cutAfter : after = after.takeWhile LineChange.isChange ++ run.after :=
    List.takeWhile_append_dropWhile.symm
  refine ⟨run, _, _, ⟨?_, by simp [run], ?_, ?_, ?_⟩, rfl, cutBefore⟩
  · calc
      before ++ change :: after
        = (run.before ++ before.rtakeWhile LineChange.isChange) ++
            change :: (after.takeWhile LineChange.isChange ++ run.after) := by
          rw [← cutBefore, ← cutAfter]
      _ = run.before ++ run.body ++ run.after := by
          simp only [run, List.append_assoc, List.cons_append]
  · intro other member
    rcases List.mem_append.mp member with front | member
    next => exact List.mem_rtakeWhile_imp front
    next =>
      rcases List.mem_cons.mp member with rfl | back
      next => exact isChange
      next => exact List.mem_takeWhile_imp back
  · intro other last
    obtain ⟨filled, rfl⟩ := List.mem_getLast?_eq_getLast last
    simpa using List.rdropWhile_last_not _ _ filled
  · intro other first
    have stops := List.head?_dropWhile_not LineChange.isChange after
    rwa [Option.mem_def.mp first] at stops

def addedAfter : Bool → List LineChange → Bool
  | added, [] => added
  | _, .unchanged _ :: rest => addedAfter false rest
  | added, .removed _ :: rest => addedAfter added rest
  | _, .inserted _ :: rest => addedAfter true rest

theorem addedAfter_append (added : Bool) (first second : List LineChange) :
    addedAfter added (first ++ second) = addedAfter (addedAfter added first) second := by
  fun_induction addedAfter added first <;> simp_all [addedAfter]

theorem addedAfter_changes {changes : List LineChange}
    (changed : ∀ change ∈ changes, change.isChange = true) (added : Bool) :
    addedAfter added changes = (added || changes.any isInserted) := by
  induction changes generalizing added with
  | nil => simp [addedAfter]
  | cons change rest ih =>
    obtain ⟨first, others⟩ := List.forall_mem_cons.mp changed
    cases change with
    | unchanged => cases first
    | removed => simp [addedAfter, ih others, isInserted]
    | inserted => simp [addedAfter, ih others, isInserted]

theorem addedAfter_stopped {before : List LineChange}
    (begins : ∀ change ∈ before.getLast?, change.isChange = false) :
    addedAfter false before = false := by
  rcases before.eq_nil_or_concat' with rfl | ⟨start, last, rfl⟩
  next => rfl
  next =>
    have stops : last.isChange = false := begins last (by simp)
    cases last with
    | unchanged => rw [addedAfter_append]; rfl
    | removed => cases stops
    | inserted => cases stops

theorem removedFirst_append {added : Bool} {first second : List LineChange} :
    RemovedFirst added (first ++ second) ↔
      RemovedFirst added first ∧ RemovedFirst (addedAfter added first) second := by
  fun_induction addedAfter added first with
  | case1 => simp [RemovedFirst]
  | case2 _ line rest ih => simpa [RemovedFirst] using ih
  | case3 added line rest ih =>
    cases added with
    | false => simp [RemovedFirst, ih]
    | true => simp [RemovedFirst]
  | case4 _ line rest ih => simpa [RemovedFirst] using ih

theorem RemovedFirst.exists_eq {added : Bool} {changes : List LineChange}
    (ordered : RemovedFirst added changes)
    (changed : ∀ change ∈ changes, change.isChange = true) :
    ∃ gone come : List String, 
      changes = gone.map LineChange.removed ++ come.map LineChange.inserted ∧
      (added = true → gone = []) := by
  induction changes generalizing added with
  | nil => exact ⟨[], [], rfl, fun _ => rfl⟩
  | cons change rest ih =>
    obtain ⟨first, others⟩ := List.forall_mem_cons.mp changed
    cases change with
    | unchanged => cases first
    | removed line =>
      obtain ⟨free, behind⟩ := ordered
      obtain ⟨gone, come, rfl, -⟩ := ih behind others
      exact ⟨line :: gone, come, rfl, fun added => by rw [free] at added; cases added⟩
    | inserted line =>
      obtain ⟨gone, come, rfl, none⟩ := ih ordered others
      rw [none rfl]
      exact ⟨[], line :: come, rfl, fun _ => rfl⟩

theorem RemovedFirst.run_eq {changes : List LineChange} (ordered : RemovedFirst false changes)
    {run : Run} (maximal : run.Maximal changes) :
    ∃ gone come : List String,
      run.body = gone.map LineChange.removed ++ come.map LineChange.inserted := by
  rw [maximal.joined, List.append_assoc, removedFirst_append,
    addedAfter_stopped maximal.begins] at ordered
  obtain ⟨gone, come, whole, -⟩ := (removedFirst_append.mp ordered.2).1.exists_eq maximal.changed
  exact ⟨gone, come, whole⟩

def RemovedLate (changes before : List LineChange) : Prop :=
  ∃ run front line back, Run.Maximal run changes ∧ run.body = front ++ .removed line :: back ∧
    (∃ text, .inserted text ∈ front) ∧ before = run.before ++ front

theorem removedLate_iff {changes before : List LineChange} :
    RemovedLate changes before ↔ ∃ line after, changes = before ++ .removed line :: after ∧
      addedAfter false before = true := by
  have added {run : Run} {front others : List LineChange} (maximal : run.Maximal changes)
      (within : run.body = front ++ others) :
      addedAfter false (run.before ++ front) = true ↔ ∃ text, .inserted text ∈ front := by
    have changed : ∀ change ∈ front, change.isChange = true := fun change member =>
      maximal.changed change (within ▸ List.mem_append_left others member)
    rw [addedAfter_append, addedAfter_stopped maximal.begins, addedAfter_changes changed,
      Bool.false_or, List.any_eq_true]
    constructor
    · rintro ⟨change, member, inserted⟩
      cases change with
      | inserted text => exact ⟨text, member⟩
      | unchanged => cases inserted
      | removed => cases inserted
    · rintro ⟨text, member⟩
      exact ⟨.inserted text, member, rfl⟩
  constructor
  · rintro ⟨run, front, line, back, maximal, within, inserted, rfl⟩
    refine ⟨line, back ++ run.after, ?_, (added maximal within).mpr inserted⟩
    rw [maximal.joined, within]
    simp
  · rintro ⟨line, after, rfl, late⟩
    have isChange : (LineChange.removed line).isChange = true := rfl
    obtain ⟨run, front, back, maximal, within, rfl⟩ := exists_maximal before isChange after
    exact ⟨run, front, line, back, maximal, within, (added maximal within).mp late, rfl⟩

structure FirstLate (changes before : List LineChange) : Prop where
  late : RemovedLate changes before
  first : ∀ other, RemovedLate changes other → before.length ≤ other.length

theorem RemovedFirst.not_removedLate {changes : List LineChange}
    (ordered : RemovedFirst false changes) (before : List LineChange) :
    ¬ RemovedLate changes before := by
  intro late
  obtain ⟨line, after, rfl, added⟩ := removedLate_iff.mp late
  have behind := (removedFirst_append.mp ordered).2
  rw [added] at behind
  cases behind.1

theorem firstLate_of_ordered {before after : List LineChange} {line : String}
    (ordered : RemovedFirst false before) (added : addedAfter false before = true) :
    FirstLate (before ++ .removed line :: after) before := by
  refine ⟨removedLate_iff.mpr ⟨line, after, rfl, added⟩, ?_⟩
  intro other late
  obtain ⟨otherLine, rest, same, otherAdded⟩ := removedLate_iff.mp late
  by_contra earlier
  have shorter : (other ++ [removed otherLine]).length ≤ before.length := by
    simp only [List.length_append, List.length_singleton]
    omega
  have whole : other ++ [removed otherLine] ++ rest = before ++ .removed line :: after := by
    rw [same, List.append_assoc, List.singleton_append]
  have inside : other ++ [removed otherLine] <+: before :=
    List.prefix_of_prefix_length_le ⟨rest, whole⟩ (List.prefix_append _ _) shorter
  obtain ⟨between, rfl⟩ := inside
  have front := (removedFirst_append.mp (removedFirst_append.mp ordered).1).2
  rw [otherAdded] at front
  cases front.1

theorem FirstLate.eq {changes before other : List LineChange} (one : FirstLate changes before)
    (another : FirstLate changes other) : before = other := by
  obtain ⟨line, after, whole, -⟩ := removedLate_iff.mp one.late
  obtain ⟨otherLine, otherAfter, otherWhole, -⟩ := removedLate_iff.mp another.late
  have same : before.length = other.length :=
    Nat.le_antisymm (one.first other another.late) (another.first before one.late)
  exact (List.append_inj (whole.symm.trans otherWhole) same).1

theorem removedFirst_or_first_late (added : Bool) (changes : List LineChange) :
    RemovedFirst added changes ∨ ∃ before line after, changes = before ++ .removed line :: after ∧
      RemovedFirst added before ∧ addedAfter added before = true := by
  induction changes generalizing added with
  | nil => exact .inl trivial
  | cons change rest ih =>
    have step {next : Bool} (frees : ∀ others, RemovedFirst next others →
        RemovedFirst added (change :: others))
        (passes : ∀ others, addedAfter added (change :: others) = addedAfter next others) :
        RemovedFirst added (change :: rest) ∨ ∃ before line after,
          change :: rest = before ++ .removed line :: after ∧ RemovedFirst added before ∧
            addedAfter added before = true := by
      rcases ih next with ordered | ⟨before, line, after, rfl, ordered, late⟩
      next => exact .inl (frees rest ordered)
      next => exact .inr ⟨change :: before, line, after, rfl, frees _ ordered, passes _ ▸ late⟩
    cases change with
    | unchanged => exact step (fun _ => id) fun _ => rfl
    | inserted => exact step (fun _ => id) fun _ => rfl
    | removed line =>
      cases added with
      | false => exact step (fun _ ordered => ⟨rfl, ordered⟩) fun _ => rfl
      | true => exact .inr ⟨[], line, rest, rfl, trivial, rfl⟩

theorem exists_firstLate_iff {changes : List LineChange} :
    (∃ before, FirstLate changes before) ↔ ∃ before, RemovedLate changes before := by
  refine ⟨fun ⟨before, first⟩ => ⟨before, first.late⟩, ?_⟩
  rintro ⟨before, late⟩
  rcases removedFirst_or_first_late false changes with
    ordered | ⟨front, line, after, rfl, ordered, added⟩
  next => exact absurd late (ordered.not_removedLate before)
  next => exact ⟨front, firstLate_of_ordered ordered added⟩

end LineChange

end PythonAssist
