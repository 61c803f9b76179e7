import PythonAssist.Disk

set_option autoImplicit false

namespace PythonAssist

namespace Path

theorem splitSlashes_ne_nil (bytes : Bytes) : splitSlashes bytes ≠ [] := by
  unfold splitSlashes
  split
  · simp
  · split
    · simp
    · split <;> simp

theorem splitSlashes_append (front back : Bytes) :
    splitSlashes (front ++ slash :: back) = splitSlashes front ++ splitSlashes back := by
  induction front with
  | nil => simp [splitSlashes]
  | cons byte rest ih =>
    simp only [List.cons_append, splitSlashes, ih]
    split
    · rfl
    · cases split : splitSlashes rest with
      | nil => exact absurd split (splitSlashes_ne_nil rest)
      | cons first others => rfl

theorem head?_splitSlashes (front back : Bytes) :
    (splitSlashes (front ++ slash :: back)).head? = (splitSlashes front).head? := by
  rw [splitSlashes_append, List.head?_append, List.head?_eq_some_head (splitSlashes_ne_nil front)]
  rfl

theorem components_append (front back : Bytes) :
    components { bytes := front ++ slash :: back } =
      components { bytes := front ++ [slash] } ++ (splitSlashes back).filterMap component := by
  have absolute (rest : Bytes) : isAbsolute { bytes := front ++ slash :: rest } =
      isAbsolute { bytes := front ++ [slash] } := by cases front <;> rfl
  unfold components
  simp only [head?_splitSlashes, absolute back, List.append_assoc]
  simp [splitSlashes_append, splitSlashes, component]

theorem components_slash {bytes : Bytes} (filled : bytes ≠ []) :
    components { bytes := bytes ++ [slash] } = components { bytes } := by
  have absolute : isAbsolute { bytes := bytes ++ [slash] } = isAbsolute { bytes } := by
    cases bytes with
    | nil => exact absurd rfl filled
    | cons => rfl
  unfold components
  simp only [absolute, head?_splitSlashes]
  simp [splitSlashes_append, splitSlashes, component]

def IsName (name : String) : Prop :=
  splitSlashes (ofString name).bytes = [(ofString name).bytes] ∧
    component (ofString name).bytes = some (.named (ofString name).bytes)

instance (name : String) : Decidable (IsName name) := instDecidableAnd

theorem IsName.bytes_ne_nil {name : String} (plain : IsName name) : (ofString name).bytes ≠ [] := by
  intro empty
  have given := plain.2
  rw [empty] at given
  cases given

theorem IsName.slash_not_mem {name : String} (plain : IsName name) :
    slash ∉ (ofString name).bytes := by
  intro inside
  obtain ⟨front, back, cut⟩ := List.append_of_mem inside
  have pieces := congrArg List.length plain.1
  rw [cut, splitSlashes_append] at pieces
  have before := List.length_pos_iff.mpr (splitSlashes_ne_nil front)
  have behind := List.length_pos_iff.mpr (splitSlashes_ne_nil back)
  rw [List.length_append, List.length_singleton] at pieces
  omega

theorem components_join {name : String} (plain : IsName name) (folder : Path) :
    (folder.join name).components = folder.components ++ [.named (ofString name).bytes] := by
  have relative : (ofString name).isAbsolute = false := by
    have outside := plain.slash_not_mem
    unfold isAbsolute
    cases bytes : (ofString name).bytes with
    | nil => rfl
    | cons first rest =>
      rw [bytes] at outside
      simpa using fun same : first = slash => outside (same ▸ List.mem_cons_self)
  have below (front : Bytes) : components { bytes := front ++ slash :: (ofString name).bytes } =
      components { bytes := front ++ [slash] } ++ [.named (ofString name).bytes] := by
    rw [components_append, plain.1]
    simp [plain.2]
  obtain ⟨bytes⟩ := folder
  unfold join
  simp only [relative, Bool.false_eq_true, if_false]
  split
  next ending =>
    rcases ending with rfl | slashed
    · -- An empty path adds nothing, and a name has no dot for a front.
      have front : some (ofString name).bytes ≠ some [dot] := by
        intro same
        have given := plain.2
        rw [Option.some.inj same] at given
        cases given
      unfold components
      simp only [List.nil_append, relative, plain.1, List.head?_cons, if_neg front,
        List.filterMap_cons, plain.2]
      rfl
    · obtain ⟨front, rfl⟩ := List.getLast?_eq_some_iff.mp slashed
      rw [List.append_assoc]
      exact below front
  next neither =>
    rw [below, components_slash fun empty => neither (.inl empty)]

end Path

namespace Disk

open PythonAssist.Path

theorem find_congr (files : List (Path × Bytes)) {path other : Path}
    (same : path.components = other.components) : find files path = find files other := by
  unfold find place
  rw [same]

theorem getLast?_join {name : String} (plain : IsName name) (folder : Path) :
    (folder.join name).bytes.getLast? ≠ some slash := by
  intro ending
  have last : (folder.join name).bytes.getLast? = (ofString name).bytes.getLast? := by
    unfold join
    dsimp only
    have filled := List.getLast?_eq_some_getLast plain.bytes_ne_nil
    split
    · rfl
    · split
      · simp [List.getLast?_append, filled]
      · simp [List.getLast?_append, List.getLast?_cons, filled]
  rw [last] at ending
  exact plain.slash_not_mem (List.mem_of_getLast? ending)

theorem ofFiles_join (files : List (Path × Bytes)) {name : String} (plain : IsName name)
    {folder other : Path} (same : folder.components = other.components) :
    (ofFiles files).read (folder.join name) = (ofFiles files).read (other.join name) := by
  have below : (folder.join name).components = (other.join name).components := by
    rw [components_join plain, components_join plain, same]
  unfold ofFiles
  simp only [if_neg (getLast?_join plain _), find_congr files below]

end Disk

end PythonAssist
