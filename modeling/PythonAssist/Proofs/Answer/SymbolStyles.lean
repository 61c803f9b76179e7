import PythonAssist.Answer.Symbol

set_option autoImplicit false

namespace PythonAssist

mutual
def SymbolTree.walk : SymbolTree → List (String × SymbolKind × Range)
  | .node name kind range children => (name, kind, range) :: walkAll children

def SymbolTree.walkAll : List SymbolTree → List (String × SymbolKind × Range)
  | [] => []
  | tree :: rest => tree.walk ++ walkAll rest
end

def SymbolEntry.label (entry : SymbolEntry) : String × SymbolKind × Range :=
  (entry.name, entry.kind, entry.location.range)

namespace Symbols

def isShown (name : SymbolName) : Bool := name.kind != .param

def Belongs (parent : Option UInt32) (name : SymbolName) : Prop :=
  parent = none ∨ name.parentId = parent

inductive Nests (lines : List String) :
    Option UInt32 → List SymbolName → List SymbolTree → List SymbolName → Prop
  | empty (parent : Option UInt32) : Nests lines parent [] [] []
  | foreign (parent : Option UInt32) (name : SymbolName) (rest : List SymbolName) :
      ¬Belongs parent name → Nests lines parent (name :: rest) [] (name :: rest)
  | skipped (parent : Option UInt32) (name : SymbolName) (rest left : List SymbolName)
      (trees : List SymbolTree) :
      Belongs parent name → isShown name = false → Nests lines parent rest trees left →
      Nests lines parent (name :: rest) trees left
  | shown (parent : Option UInt32) (name : SymbolName) (rest middle left : List SymbolName)
      (children siblings : List SymbolTree) :
      Belongs parent name → isShown name = true →
      Nests lines (some name.id) rest children middle → Nests lines parent middle siblings left →
      Nests lines parent (name :: rest)
        (.node name.name name.kind.symbolKind (spanOf lines name) children :: siblings) left

inductive Planted (lines : List String) :
    Option UInt32 → List SymbolName → List SymbolTree → Prop
  | empty (parent : Option UInt32) : Planted lines parent [] []
  | node (parent : Option UInt32) (name : SymbolName) (below beside : List SymbolName)
      (children siblings : List SymbolTree) :
      Belongs parent name → Planted lines (some name.id) below children →
      Planted lines parent beside siblings →
      Planted lines parent (name :: (below ++ beside))
        (.node name.name name.kind.symbolKind (spanOf lines name) children :: siblings)

variable {lines : List String} {parent : Option UInt32} {names left : List SymbolName}
  {trees : List SymbolTree}

theorem Nests.length_le (nests : Nests lines parent names trees left) :
    left.length ≤ names.length := by
  induction nests with
  | empty => exact Nat.le_refl _
  | foreign => exact Nat.le_refl _
  | skipped _ name rest left trees _ _ _ ih => exact Nat.le_succ_of_le ih
  | shown _ name rest middle left _ _ _ _ _ _ inner outer =>
    exact Nat.le_succ_of_le (Nat.le_trans outer inner)

theorem belongs_iff (parent : Option UInt32) (name : SymbolName) :
    Belongs parent name ↔ (parent.isSome && name.parentId != parent) = false := by
  cases parent <;> simp [Belongs]

-- As many steps as there are names, and one more, are enough.
theorem nestedFrom_nests (lines : List String) (fuel : Nat) (parent : Option UInt32)
    (names : List SymbolName) (enough : names.length < fuel) :
    Nests lines parent names (nestedFrom lines fuel parent names).1
      (nestedFrom lines fuel parent names).2 := by
  induction fuel generalizing parent names with
  | zero => exact absurd enough (Nat.not_lt_zero _)
  | succ fuel ih =>
    cases names with
    | nil => exact .empty parent
    | cons name rest =>
      have room : rest.length < fuel := by simpa using enough
      unfold nestedFrom
      by_cases own : Belongs parent name
      next =>
        rw [(belongs_iff parent name).mp own]
        simp only [Bool.false_eq_true, if_false]
        split
        next param =>
          exact .skipped parent name rest _ _ own (by simp [isShown, param]) (ih parent rest room)
        next visible =>
          -- The siblings are taken from what the children have left.
          have children := ih (some name.id) rest room
          have siblings := ih parent _ (Nat.lt_of_le_of_lt children.length_le room)
          exact .shown parent name rest _ _ _ _ own (by simp [isShown, visible]) children siblings
      next =>
        rw [if_pos (by simpa [belongs_iff] using own)]
        exact .foreign parent name rest own

theorem Nests.planted (nests : Nests lines parent names trees left) :
    ∃ taken, names = taken ++ left ∧ Planted lines parent (taken.filter isShown) trees := by
  induction nests with
  | empty parent => exact ⟨[], rfl, .empty parent⟩
  | foreign parent => exact ⟨[], rfl, .empty parent⟩
  | skipped parent name rest left trees _ hidden _ ih =>
    obtain ⟨taken, rfl, planted⟩ := ih
    refine ⟨name :: taken, rfl, ?_⟩
    rwa [List.filter_cons_of_neg (by simp [hidden])]
  | shown parent name rest middle left children siblings own visible _ _ inner outer =>
    obtain ⟨below, rfl, nested⟩ := inner
    obtain ⟨beside, rfl, following⟩ := outer
    refine ⟨name :: (below ++ beside), by simp, ?_⟩
    rw [List.filter_cons_of_pos visible, List.filter_append]
    exact .node parent name _ _ children siblings own nested following

theorem Nests.top (nests : Nests lines none names trees left) : left = [] := by
  generalize top : (none : Option UInt32) = parent at nests
  induction nests with
  | empty => rfl
  | foreign _ name _ foreign => exact absurd (.inl top.symm) foreign
  | skipped _ _ _ _ _ _ _ _ ih => exact ih top
  | shown _ _ _ _ _ _ _ _ _ _ _ _ outer => exact outer top

theorem Planted.walkAll (uri : Uri) (planted : Planted lines parent names trees) :
    SymbolTree.walkAll trees = (names.map (entry uri lines)).map SymbolEntry.label := by
  induction planted with
  | empty => rfl
  | node _ name below beside children siblings _ _ _ inner outer =>
    rw [SymbolTree.walkAll, SymbolTree.walk, inner, outer]
    simp [SymbolEntry.label, entry]

end Symbols

open Symbols

-- From every list that is accepted a tree is made in finitely many steps. It shows the same names
-- as the flat list, parameters excepted: in the order of the list, each as often as it is listed.
-- Only names with the id of a symbol as their parent are nested directly under it.
theorem symbol_styles_agree (uri : Uri) (lines : List String) (names : List SymbolName)
    (answer : Option Symbols) (filled : names ≠ [])
    (accepted : ofNames .hierarchical uri lines names = .ok answer) :
    ∃ trees entries, answer = some (.nested trees) ∧
      ofNames .flat uri lines names = .ok (some (.flat entries)) ∧
      Nests lines none names trees [] ∧ Planted lines none (names.filter isShown) trees ∧
      entries = (names.filter isShown).map (entry uri lines) ∧
      SymbolTree.walkAll trees = entries.map SymbolEntry.label := by
  have nests := nestedFrom_nests lines (names.length + 1) none names (Nat.lt_succ_self _)
  have all := nests.top
  rw [all] at nests
  obtain ⟨taken, cut, planted⟩ := nests.planted
  rw [List.append_nil] at cut
  subst cut
  have nonempty : names.isEmpty = false := by simpa using filled
  refine ⟨_, _, ?_, ?_, nests, planted, rfl, planted.walkAll uri⟩
  · simp only [ofNames, nonempty, Bool.false_eq_true, if_false] at accepted
    split at accepted
    next => cases accepted
    next => exact (Except.ok.inj accepted).symm
  · simp only [ofNames, nonempty, Bool.false_eq_true, if_false]
    rfl

-- Two classes with one id, a method that comes after a foreign name, and a name below a parameter.
def entangledNames : List SymbolName :=
  let name (id : UInt32) (parentId : Option UInt32) (text : String) (kind : NameKind) :
      SymbolName :=
    { id, parentId, name := text, kind, line := id, column := 0, fullName := none
      parentFullName := none, moduleName := "app" }
  [name 1 none "A" .classDef, name 2 (some 1) "f" .function, name 3 none "B" .classDef,
    name 4 (some 1) "g" .function, name 5 (some 4) "self" .param, name 6 (some 5) "x" .statement,
    name 3 none "C" .classDef]

theorem symbol_styles_agree_on_entangled_names :
    entangledNames ≠ [] ∧
      ∃ trees entries,
        ofNames .hierarchical ⟨"file:///app.py"⟩ [] entangledNames = .ok (some (.nested trees)) ∧
        ofNames .flat ⟨"file:///app.py"⟩ [] entangledNames = .ok (some (.flat entries)) ∧
        entries.map SymbolEntry.name = ["A", "f", "B", "g", "x", "C"] ∧
        SymbolTree.walkAll trees = entries.map SymbolEntry.label := by
  have filled : entangledNames ≠ [] := by decide
  cases made : ofNames .hierarchical ⟨"file:///app.py"⟩ [] entangledNames with
  | error e => cases made
  | ok answer =>
    obtain ⟨trees, entries, nested, flat, -, -, listed, walk⟩ :=
      symbol_styles_agree ⟨"file:///app.py"⟩ [] entangledNames answer filled made
    exact ⟨filled, trees, entries, by rw [nested], flat, by rw [listed]; rfl, walk⟩

end PythonAssist
