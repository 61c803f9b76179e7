import Mathlib.Data.List.Lex
import Mathlib.Data.Prod.Lex
import PythonAssist.Engine.Payload

set_option autoImplicit false

namespace PythonAssist

namespace Path

def Component.name : Component → Bytes
  | .named name => name
  | _ => []

def Component.key (component : Component) : Nat ×ₗ List Nat :=
  toLex (component.rank, component.name.map UInt8.toNat)

def key (path : Path) : List (Nat ×ₗ List Nat) := path.components.map Component.key

theorem bytesBefore_iff (a b : Bytes) :
    bytesBefore a b = true ↔ a.map UInt8.toNat < b.map UInt8.toNat := by
  induction a generalizing b with
  | nil => cases b <;> simp [bytesBefore]
  | cons first rest ih =>
    cases b with
    | nil => simp [bytesBefore]
    | cons other others =>
      simp only [bytesBefore, List.map_cons, List.cons_lt_cons_iff]
      split
      next same => simp [same, ih]
      next different => simp [UInt8.lt_iff_toNat_lt, UInt8.toNat_inj, different]

theorem Component.before_iff (a b : Component) : a.before b = true ↔ a.key < b.key := by
  cases a <;> cases b <;>
    simp [Component.before, Component.key, Component.name, Component.rank,
      Prod.Lex.toLex_lt_toLex, bytesBefore_iff]

theorem Component.key_injective : Function.Injective Component.key := by
  intro a b same
  cases a <;> cases b <;> simp [Component.key, Component.name, Component.rank] at same ⊢
  next name other =>
    exact List.map_injective_iff.mpr (fun _ _ => UInt8.toNat_inj.mp) same

theorem componentsBefore_iff (a b : List Component) :
    componentsBefore a b = true ↔ a.map Component.key < b.map Component.key := by
  induction a generalizing b with
  | nil => cases b <;> simp [componentsBefore]
  | cons first rest ih =>
    cases b with
    | nil => simp [componentsBefore]
    | cons other others =>
      simp only [componentsBefore, List.map_cons, List.cons_lt_cons_iff]
      split
      next same => simp [same, ih]
      next different =>
        simp [Component.before_iff, Component.key_injective.eq_iff, different]

theorem before_iff (a b : Path) : a.before b = true ↔ a.key < b.key :=
  componentsBefore_iff a.components b.components

theorem same_iff (a b : Path) : a.same b = true ↔ a.key = b.key := by
  simp [same, key, (List.map_injective_iff.mpr Component.key_injective).eq_iff]

theorem before_trans {a b c : Path} (first : a.before b = true) (second : b.before c = true) :
    a.before c = true := by
  rw [before_iff] at first second ⊢
  exact lt_trans first second

theorem before_irrefl (a : Path) : a.before a = false := by
  simp [← Bool.not_eq_true, before_iff]

theorem before_of_neither {a b : Path} (different : a.same b = false)
    (later : a.before b = false) : b.before a = true := by
  rw [← Bool.not_eq_true, same_iff] at different
  rw [← Bool.not_eq_true, before_iff, not_lt] at later
  rw [before_iff]
  exact lt_of_le_of_ne later (Ne.symm different)

end Path

def Refactoring.Ordered (refactoring : Refactoring) : Prop :=
  refactoring.changedFiles.Pairwise fun a b => a.1.before b.1 = true

theorem mem_insertFile {path : Path} {file : ChangedFile} {files : List (Path × ChangedFile)}
    {entry : Path × ChangedFile} (member : entry ∈ insertFile path file files) :
    entry.1 = path ∨ entry.1 ∈ files.map Prod.fst := by
  induction files with
  | nil =>
    rw [insertFile, List.mem_singleton] at member
    exact .inl (by rw [member])
  | cons first rest ih =>
    unfold insertFile at member
    split at member
    next =>
      rcases List.mem_cons.mp member with rfl | later
      · exact .inr List.mem_cons_self
      · exact .inr (List.mem_cons_of_mem _ (List.mem_map_of_mem later))
    next =>
      split at member
      next =>
        rcases List.mem_cons.mp member with rfl | later
        · exact .inl rfl
        · exact .inr (List.mem_map_of_mem later)
      next =>
        rcases List.mem_cons.mp member with rfl | later
        · exact .inr List.mem_cons_self
        · exact (ih later).imp_right (List.mem_cons_of_mem _)

theorem insertFile_ordered (path : Path) (file : ChangedFile) {files : List (Path × ChangedFile)}
    (ordered : files.Pairwise fun a b => a.1.before b.1 = true) :
    (insertFile path file files).Pairwise fun a b => a.1.before b.1 = true := by
  induction files with
  | nil => exact List.pairwise_singleton _ _
  | cons first rest ih =>
    obtain ⟨ahead, behind⟩ := List.pairwise_cons.mp ordered
    unfold insertFile
    split
    next => exact List.pairwise_cons.mpr ⟨ahead, behind⟩
    next different =>
      split
      next earlier =>
        refine List.pairwise_cons.mpr ⟨fun entry member => ?_, ordered⟩
        rcases List.mem_cons.mp member with rfl | later
        · exact earlier
        · exact Path.before_trans earlier (ahead entry later)
      next later =>
        have after := Path.before_of_neither (Bool.eq_false_of_not_eq_true different)
          (Bool.eq_false_of_not_eq_true later)
        refine List.pairwise_cons.mpr ⟨fun entry member => ?_, ih behind⟩
        rcases mem_insertFile member with here | listed
        · rw [here]
          exact after
        · obtain ⟨known, member, same⟩ := List.mem_map.mp listed
          rw [← same]
          exact ahead known member

theorem Refactoring.ofFiles_ordered (files : List (Path × ChangedFile)) :
    (ofFiles files).Ordered := by
  unfold ofFiles Ordered
  generalize begun : ([] : List (Path × ChangedFile)) = sorted
  have ordered : sorted.Pairwise fun a b => a.1.before b.1 = true := begun ▸ List.Pairwise.nil
  clear begun
  induction files generalizing sorted with
  | nil => exact ordered
  | cons file rest ih => exact ih _ (insertFile_ordered file.1 file.2 ordered)

end PythonAssist
