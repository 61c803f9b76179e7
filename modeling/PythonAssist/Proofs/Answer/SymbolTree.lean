import Mathlib.Data.List.Forall2
import Mathlib.Data.List.Nodup
import PythonAssist.Answer.Symbol
import PythonAssist.Proofs.Text.Splitting

set_option autoImplicit false

namespace PythonAssist

namespace Symbols

def Misplaced (names earlier : List SymbolName) (child : SymbolName) (parent : UInt32) : Prop :=
  child.parentId = some parent ∧ parent ∈ names.map SymbolName.id ∧
    parent ∉ earlier.map SymbolName.id

def Orderly (names front : List SymbolName) : Prop :=
  ∀ earlier child later parent, front = earlier ++ child :: later →
    ¬Misplaced names earlier child parent

inductive Descendant (names : List SymbolName) (ancestor : SymbolName) : SymbolName → Prop
  | child (name : SymbolName) : name ∈ names → name.parentId = some ancestor.id →
      Descendant names ancestor name
  | deeper (above name : SymbolName) : Descendant names ancestor above → name ∈ names →
      name.parentId = some above.id → Descendant names ancestor name

def DepthFirst (names : List SymbolName) : Prop :=
  ∀ earlier parent between child later,
    names = earlier ++ parent :: (between ++ child :: later) →
    child.parentId = some parent.id → ∀ name ∈ between, Descendant names parent name

def isChildOf (parent name : SymbolName) : Bool :=
  name.kind != .param && name.parentId == some parent.id

def isTop (names : List SymbolName) (name : SymbolName) : Bool :=
  name.kind != .param && names.all fun parent => name.parentId != some parent.id

inductive Shows (lines : List String) (names : List SymbolName) : SymbolName → SymbolTree → Prop
  | node (name : SymbolName) (children : List SymbolTree) :
      List.Forall₂ (Shows lines names) (names.filter (isChildOf name)) children →
      Shows lines names name
        (.node name.name name.kind.symbolKind (spanOf lines name) children)

inductive Appears (tree : SymbolTree) : List SymbolTree → Prop
  | front (trees : List SymbolTree) : tree ∈ trees → Appears tree trees
  | inside (name : String) (kind : SymbolKind) (range : Range) (children trees : List SymbolTree) :
      .node name kind range children ∈ trees → Appears tree children → Appears tree trees

section Order

variable {names : List SymbolName}

theorem Orderly.snoc {front : List SymbolName} {name : SymbolName} (orderly : Orderly names front)
    (placed : ∀ parent, ¬Misplaced names front name parent) :
    Orderly names (front ++ [name]) := by
  intro earlier child later parent cut
  rcases snoc_cut cut with ⟨rfl, rfl, -⟩ | ⟨others, rfl, -⟩
  · exact placed parent
  · exact orderly earlier child others parent rfl

theorem checkOrder_outcome (rest before : List SymbolName) (seen : List UInt32)
    (cut : names = before ++ rest) (orderly : Orderly names before)
    (known : ∀ id, id ∈ seen ↔ id ∈ before.map SymbolName.id) :
    (checkOrder (names.map SymbolName.id) seen rest = .ok () ∧ Orderly names names) ∨
      ∃ earlier child later parent, names = earlier ++ child :: later ∧
        Misplaced names earlier child parent ∧ Orderly names earlier ∧
        checkOrder (names.map SymbolName.id) seen rest =
          .error { child := child.name, parent } := by
  induction rest generalizing before seen with
  | nil =>
    rw [List.append_nil] at cut
    exact .inl ⟨rfl, cut ▸ orderly⟩
  | cons name others ih =>
    have onward (placed : ∀ parent, ¬Misplaced names before name parent) :=
      ih (before ++ [name]) (name.id :: seen) (by simp [cut])
        (orderly.snoc placed) (by simp [known, or_comm])
    unfold checkOrder
    split
    next orphan =>
      apply onward
      rintro parent ⟨has, -⟩
      cases orphan.symm.trans has
    next parent has =>
      split
      next late =>
        simp only [Bool.and_eq_true, List.contains_eq_mem, decide_eq_true_eq, Bool.not_eq_true',
          decide_eq_false_iff_not, known] at late
        exact .inr ⟨before, name, others, parent, cut, ⟨has, late⟩, orderly, rfl⟩
      next early =>
        apply onward
        rintro other ⟨same, late⟩
        cases has.symm.trans same
        simp only [Bool.and_eq_true, List.contains_eq_mem, decide_eq_true_eq, Bool.not_eq_true',
          decide_eq_false_iff_not, known] at early
        exact early late

end Order

structure Laid (names : List SymbolName) : Prop where
  distinct : (names.map SymbolName.id).Nodup
  orderly : Orderly names names
  depthFirst : DepthFirst names
  leaves : ∀ name ∈ names, name.kind = .param → ∀ child ∈ names, child.parentId ≠ some name.id

namespace Laid

variable {names : List SymbolName}

theorem same_of_id (laid : Laid names) {name other : SymbolName} (listed : name ∈ names)
    (known : other ∈ names) (same : name.id = other.id) : name = other :=
  List.inj_on_of_nodup_map laid.distinct listed known same

theorem apart (laid : Laid names) {front back : List SymbolName} (cut : names = front ++ back)
    {name : SymbolName} (inFront : name ∈ front) : name ∉ back :=
  have nodup : (front ++ back).Nodup := cut ▸ laid.distinct.of_map
  fun behind => (List.disjoint_of_nodup_append nodup) inFront behind

theorem parent_before (laid : Laid names) {earlier later : List SymbolName}
    {child parent : SymbolName} (cut : names = earlier ++ child :: later)
    (listed : parent ∈ names) (has : child.parentId = some parent.id) : parent ∈ earlier := by
  have placed := laid.orderly earlier child later parent.id cut
  by_contra missing
  refine placed ⟨has, List.mem_map_of_mem listed, fun early => missing ?_⟩
  obtain ⟨other, inside, same⟩ := List.mem_map.mp early
  have known : other ∈ names := cut ▸ List.mem_append_left _ inside
  rwa [← laid.same_of_id known listed same]

theorem parent_not_behind (laid : Laid names) {front back : List SymbolName}
    (cut : names = front ++ back) {child parent : SymbolName} (inFront : child ∈ front)
    (behind : parent ∈ back) : child.parentId ≠ some parent.id := by
  intro has
  obtain ⟨earlier, later, rfl⟩ := List.append_of_mem inFront
  have early := laid.parent_before (by rw [cut, List.append_assoc]; rfl)
    (cut ▸ List.mem_append_right _ behind) has
  exact laid.apart cut (List.mem_append_left _ early) behind

theorem parent_ne_self (laid : Laid names) {earlier later : List SymbolName} {name : SymbolName}
    (cut : names = earlier ++ name :: later) : name.parentId ≠ some name.id := by
  intro has
  have early := laid.parent_before cut (cut ▸ List.mem_append_right _ List.mem_cons_self) has
  exact laid.apart cut early List.mem_cons_self

theorem descendant_behind (laid : Laid names) {earlier later : List SymbolName}
    {parent name : SymbolName} (cut : names = earlier ++ parent :: later)
    (descends : Descendant names parent name) : name ∈ later := by
  have upTo : names = (earlier ++ [parent]) ++ later := by rw [cut, List.append_cons]
  have listed {name : SymbolName} (listed : name ∈ names) :
      name ∈ earlier ∨ name = parent ∨ name ∈ later := by
    simpa [cut] using listed
  induction descends with
  | child name member has =>
    rcases listed member with early | rfl | late
    · exact absurd has (laid.parent_not_behind cut early List.mem_cons_self)
    · exact absurd has (laid.parent_ne_self cut)
    · exact late
  | deeper above name _ member has ih =>
    rcases listed member with early | rfl | late
    · exact absurd has (laid.parent_not_behind upTo (List.mem_append_left _ early) ih)
    · exact absurd has (laid.parent_not_behind upTo (by simp) ih)
    · exact late

theorem no_child_behind (laid : Laid names) {earlier passed rest : List SymbolName}
    {parent name : SymbolName} (cut : names = earlier ++ parent :: (passed ++ name :: rest))
    (settled : ∀ above ∈ passed, name.parentId ≠ some above.id)
    (foreign : name.parentId ≠ some parent.id) :
    ∀ child ∈ name :: rest, child.parentId ≠ some parent.id := by
  intro child member has
  rcases List.mem_cons.mp member with rfl | behind
  · exact foreign has
  · obtain ⟨between, later, rfl⟩ := List.append_of_mem behind
    have descends := laid.depthFirst earlier parent (passed ++ name :: between) child later
      (by rw [cut]; simp) has name (by simp)
    cases descends with
    | child _ _ own => exact foreign own
    | deeper above _ descends listed own =>
      have upTo : names = (earlier ++ parent :: passed) ++ name :: (between ++ child :: later) := by
        simp [cut]
      have late := laid.descendant_behind cut descends
      have known : above ∈ names :=
        cut ▸ List.mem_append_right _ (List.mem_cons_of_mem _ late)
      have early := laid.parent_before upTo known own
      rcases List.mem_append.mp late with inPassed | behind
      · exact settled above inPassed own
      · exact laid.apart upTo early behind

end Laid

structure Takes (lines : List String) (names : List SymbolName) (parent : SymbolName)
    (taken remaining : List SymbolName) (trees : List SymbolTree) : Prop where
  shown : List.Forall₂ (Shows lines names) (taken.filter (isChildOf parent)) trees
  within : ∀ name ∈ taken, ∃ above ∈ parent :: taken, name.parentId = some above.id
  finished : ∀ name ∈ remaining, ∀ above ∈ parent :: taken, name.parentId ≠ some above.id

section Tree

variable {lines : List String} {names : List SymbolName}

theorem Takes.others {parent other : SymbolName} {earlier taken remaining : List SymbolName}
    {trees : List SymbolTree} (takes : Takes lines names parent taken remaining trees)
    (laid : Laid names) (cut : names = earlier ++ parent :: (taken ++ remaining))
    (before : other ∈ earlier) : ∀ name ∈ taken, name.parentId ≠ some other.id := by
  intro name member has
  obtain ⟨above, inside, own⟩ := takes.within name member
  have listed : above ∈ parent :: (taken ++ remaining) := by
    rw [← List.cons_append]
    exact List.mem_append_left _ inside
  have early : other ∈ names := cut ▸ List.mem_append_left _ before
  have late : above ∈ names := cut ▸ List.mem_append_right _ listed
  have same := laid.same_of_id early late (Option.some.inj (has.symm.trans own))
  exact laid.apart cut before (same ▸ listed)

theorem Takes.children {parent : SymbolName} {earlier taken remaining : List SymbolName}
    {trees : List SymbolTree} (takes : Takes lines names parent taken remaining trees)
    (laid : Laid names) (cut : names = earlier ++ parent :: (taken ++ remaining)) :
    names.filter (isChildOf parent) = taken.filter (isChildOf parent) := by
  have upTo : names = (earlier ++ [parent]) ++ (taken ++ remaining) := by
    rw [cut, ← List.append_cons]
  have none (part : List SymbolName) (foreign : ∀ name ∈ part, name.parentId ≠ some parent.id) :
      part.filter (isChildOf parent) = [] := by
    rw [List.filter_eq_nil_iff]
    intro name member
    simp [isChildOf, foreign name member]
  have front : (earlier ++ [parent]).filter (isChildOf parent) = [] := by
    apply none
    intro name member
    rcases List.mem_append.mp member with early | itself
    · exact laid.parent_not_behind cut early List.mem_cons_self
    · rw [List.mem_singleton.mp itself]
      exact laid.parent_ne_self cut
  have back : remaining.filter (isChildOf parent) = [] :=
    none remaining fun name member => takes.finished name member parent List.mem_cons_self
  conv_lhs => rw [upTo]
  rw [List.filter_append _ (taken ++ remaining), front, List.filter_append, back, List.nil_append,
    List.append_nil]

theorem Takes.skip {parent name : SymbolName} {taken remaining : List SymbolName}
    {trees : List SymbolTree} (takes : Takes lines names parent taken remaining trees)
    (own : name.parentId = some parent.id) (param : name.kind = .param)
    (childless : ∀ child ∈ remaining, child.parentId ≠ some name.id) :
    Takes lines names parent (name :: taken) remaining trees := by
  refine ⟨?_, ?_, ?_⟩
  · rw [List.filter_cons_of_neg (by simp [isChildOf, param])]
    exact takes.shown
  · rintro child (_ | member)
    · exact ⟨parent, List.mem_cons_self, own⟩
    · obtain ⟨above, inside, has⟩ := takes.within child ‹_›
      exact ⟨above, by simp only [List.mem_cons] at inside ⊢; tauto, has⟩
  · intro child member above inside
    rcases List.mem_cons.mp inside with rfl | deeper
    · exact takes.finished child member above List.mem_cons_self
    · rcases List.mem_cons.mp deeper with rfl | later
      · exact childless child member
      · exact takes.finished child member above (List.mem_cons_of_mem _ later)

theorem Takes.node {parent name : SymbolName} {inner taken remaining : List SymbolName}
    {children siblings : List SymbolTree}
    (below : Takes lines names name inner (taken ++ remaining) children)
    (beside : Takes lines names parent taken remaining siblings)
    (own : name.parentId = some parent.id) (shown : name.kind ≠ .param)
    (shows : Shows lines names name
      (.node name.name name.kind.symbolKind (spanOf lines name) children))
    (others : ∀ child ∈ inner, child.parentId ≠ some parent.id) :
    Takes lines names parent (name :: (inner ++ taken)) remaining
      (.node name.name name.kind.symbolKind (spanOf lines name) children :: siblings) := by
  have none : inner.filter (isChildOf parent) = [] := by
    rw [List.filter_eq_nil_iff]
    intro child member
    simp [isChildOf, others child member]
  refine ⟨?_, ?_, ?_⟩
  · rw [List.filter_cons_of_pos (by simp [isChildOf, shown, own]), List.filter_append, none]
    exact .cons shows beside.shown
  · intro child member
    simp only [List.mem_cons, List.mem_append] at member
    rcases member with rfl | inside | later
    · exact ⟨parent, List.mem_cons_self, own⟩
    · obtain ⟨above, listed, has⟩ := below.within child inside
      exact ⟨above, by simp only [List.mem_cons, List.mem_append] at listed ⊢; tauto, has⟩
    · obtain ⟨above, listed, has⟩ := beside.within child later
      exact ⟨above, by simp only [List.mem_cons, List.mem_append] at listed ⊢; tauto, has⟩
  · intro child member above listed
    simp only [List.mem_cons, List.mem_append] at listed
    rcases listed with rfl | rfl | inside | later
    · exact beside.finished child member above List.mem_cons_self
    · exact below.finished child (List.mem_append_right _ member) above List.mem_cons_self
    · exact below.finished child (List.mem_append_right _ member) above
        (List.mem_cons_of_mem _ inside)
    · exact beside.finished child member above (List.mem_cons_of_mem _ later)

variable (lines) in
-- The fuel is enough, and between the parent and the cursor only finished names were passed.
theorem nestedFrom_takes (laid : Laid names) (fuel : Nat) (earlier : List SymbolName)
    (parent : SymbolName) (passed rest : List SymbolName) (enough : rest.length < fuel)
    (cut : names = earlier ++ parent :: (passed ++ rest))
    (settled : ∀ name ∈ rest, ∀ above ∈ passed, name.parentId ≠ some above.id) :
    ∃ taken remaining trees, rest = taken ++ remaining ∧
      nestedFrom lines fuel (some parent.id) rest = (trees, remaining) ∧
      Takes lines names parent taken remaining trees := by
  induction fuel generalizing earlier passed rest parent with
  | zero => exact absurd enough (Nat.not_lt_zero _)
  | succ fuel ih =>
    cases rest with
    | nil => exact ⟨[], [], [], rfl, rfl, .nil, by simp, by simp⟩
    | cons name rest =>
      have room : rest.length < fuel := by simpa using enough
      have listed : name ∈ names := by simp [cut]
      by_cases own : name.parentId = some parent.id
      next =>
        by_cases param : name.kind = .param
        next =>
          have childless (child : SymbolName) (member : child ∈ rest) :
              child.parentId ≠ some name.id :=
            laid.leaves name listed param child (by simp [cut, member])
          obtain ⟨taken, remaining, trees, rfl, made, takes⟩ :=
            ih earlier parent (passed ++ [name]) rest room
              (by simp [cut]) (by
                intro child member above inside
                rcases List.mem_append.mp inside with known | itself
                · exact settled child (List.mem_cons_of_mem _ member) above known
                · exact List.mem_singleton.mp itself ▸ childless child member)
          refine ⟨name :: taken, remaining, trees, rfl, ?_, takes.skip own param fun child member =>
            childless child (List.mem_append_right _ member)⟩
          simp [nestedFrom, own, param, made]
        next =>
          -- The children of the name come first, then its siblings behind them.
          have here : names = (earlier ++ parent :: passed) ++ name :: rest := by simp [cut]
          obtain ⟨inner, middle, children, rfl, made, below⟩ :=
            ih (earlier ++ parent :: passed) name [] rest room here (by simp)
          have shorter : middle.length < fuel := by
            rw [List.length_append] at room
            omega
          obtain ⟨taken, remaining, siblings, rfl, making, beside⟩ :=
            ih earlier parent (passed ++ name :: inner) middle shorter
              (by simp [cut]) (by
                intro child member above inside
                rcases List.mem_append.mp inside with known | later
                · exact settled child (by simp [member]) above known
                · exact below.finished child member above later)
          have shows : Shows lines names name
              (.node name.name name.kind.symbolKind (spanOf lines name) children) :=
            .node name children (below.children laid here ▸ below.shown)
          have before : parent ∈ earlier ++ parent :: passed := by simp
          have others := below.others laid here before
          refine ⟨name :: (inner ++ taken), remaining, _, by simp, ?_,
            below.node beside own param shows others⟩
          simp [nestedFrom, own, param, made, making]
      next =>
        refine ⟨[], name :: rest, [], rfl, ?_, .nil, by simp, ?_⟩
        · simp [nestedFrom, own]
        · have ends := laid.no_child_behind cut (settled name List.mem_cons_self) own
          simpa using ends

variable (lines) in
theorem nestedFrom_top (laid : Laid names) (fuel : Nat) (passed rest : List SymbolName)
    (enough : rest.length < fuel) (cut : names = passed ++ rest)
    (settled : ∀ name ∈ rest, ∀ above ∈ passed, name.parentId ≠ some above.id) :
    ∃ trees, nestedFrom lines fuel none rest = (trees, []) ∧
      List.Forall₂ (Shows lines names) (rest.filter (isTop names)) trees := by
  induction fuel generalizing passed rest with
  | zero => exact absurd enough (Nat.not_lt_zero _)
  | succ fuel ih =>
    cases rest with
    | nil => exact ⟨[], rfl, .nil⟩
    | cons name rest =>
      have room : rest.length < fuel := by simpa using enough
      have listed : name ∈ names := by simp [cut]
      by_cases param : name.kind = .param
      next =>
        obtain ⟨trees, made, shown⟩ := ih (passed ++ [name]) rest room (by simp [cut]) (by
          intro child member above inside
          rcases List.mem_append.mp inside with known | itself
          · exact settled child (List.mem_cons_of_mem _ member) above known
          · exact List.mem_singleton.mp itself ▸
              laid.leaves name listed param child (by simp [cut, member]))
        refine ⟨trees, by simp [nestedFrom, param, made], ?_⟩
        rw [List.filter_cons_of_neg (by simp [isTop, param])]
        exact shown
      next =>
        have orphan : isTop names name = true := by
          simp only [isTop, Bool.and_eq_true, bne_iff_ne, List.all_eq_true]
          refine ⟨param, fun parent known has => ?_⟩
          exact settled name List.mem_cons_self parent (laid.parent_before cut known has) has
        obtain ⟨inner, middle, children, rfl, made, below⟩ :=
          nestedFrom_takes lines laid fuel passed name [] rest room cut (by simp)
        have shorter : middle.length < fuel := by
          rw [List.length_append] at room
          omega
        obtain ⟨siblings, making, beside⟩ := ih (passed ++ name :: inner) middle shorter
          (by simp [cut]) (by
            intro child member above inside
            rcases List.mem_append.mp inside with known | later
            · exact settled child (by simp [member]) above known
            · exact below.finished child member above later)
        have none : inner.filter (isTop names) = [] := by
          rw [List.filter_eq_nil_iff]
          intro child member top
          obtain ⟨above, inside, has⟩ := below.within child member
          simp only [isTop, Bool.and_eq_true, bne_iff_ne, List.all_eq_true] at top
          have known : above ∈ name :: (inner ++ middle) := by
            rw [← List.cons_append]
            exact List.mem_append_left _ inside
          exact top.2 above (cut ▸ List.mem_append_right _ known) has
        have shows : Shows lines names name
            (.node name.name name.kind.symbolKind (spanOf lines name) children) :=
          .node name children (below.children laid cut ▸ below.shown)
        refine ⟨_, by simp [nestedFrom, param, made, making]; rfl, ?_⟩
        rw [List.filter_cons_of_pos orphan, List.filter_append, none]
        exact .cons shows beside

theorem Appears.child {tree : SymbolTree} {name : String} {kind : SymbolKind} {range : Range}
    {children trees : List SymbolTree} (appears : Appears (.node name kind range children) trees)
    (member : tree ∈ children) : Appears tree trees := by
  generalize same : SymbolTree.node name kind range children = parent at appears
  induction appears with
  | front trees here => exact .inside name kind range children trees (same ▸ here) (.front _ member)
  | inside _ _ _ _ trees here _ ih => exact .inside _ _ _ _ trees here ih

theorem Shows.of_mem {listed : List SymbolName} {trees : List SymbolTree}
    (shown : List.Forall₂ (Shows lines names) listed trees) {name : SymbolName}
    (member : name ∈ listed) : ∃ tree ∈ trees, Shows lines names name tree := by
  obtain ⟨place, inside, rfl⟩ := List.getElem_of_mem member
  have matched := shown.length_eq ▸ inside
  exact ⟨trees[place], List.getElem_mem matched, shown.get inside matched⟩

-- The induction is on the names before this one. The parent is one of them, so its symbol is known
-- to appear.
theorem shows_appears (laid : Laid names) {trees : List SymbolTree}
    (tops : List.Forall₂ (Shows lines names) (names.filter (isTop names)) trees)
    {earlier later : List SymbolName} {name : SymbolName} (cut : names = earlier ++ name :: later)
    (shown : name.kind ≠ .param) : ∃ tree, Appears tree trees ∧ Shows lines names name tree := by
  induction size : earlier.length using Nat.strongRecOn generalizing earlier name later with
  | _ size ih =>
    have listed : name ∈ names := by simp [cut]
    by_cases top : isTop names name = true
    next =>
      obtain ⟨tree, here, shows⟩ := Shows.of_mem tops (List.mem_filter.mpr ⟨listed, top⟩)
      exact ⟨tree, .front trees here, shows⟩
    next =>
      obtain ⟨parent, known, has⟩ : ∃ parent ∈ names, name.parentId = some parent.id := by
        simpa [isTop, shown] using top
      obtain ⟨first, between, same⟩ := List.append_of_mem (laid.parent_before cut known has)
      have visible : parent.kind ≠ .param := fun param =>
        laid.leaves parent known param name listed has
      obtain ⟨tree, appears, shows⟩ := ih first.length (by simp [← size, same])
        (by rw [cut, same, List.append_assoc]; rfl) visible rfl
      cases shows with
      | node _ children below =>
        have child : isChildOf parent name = true := by simp [isChildOf, shown, has]
        obtain ⟨tree, inside, shows⟩ := Shows.of_mem below (List.mem_filter.mpr ⟨listed, child⟩)
        exact ⟨tree, appears.child inside, shows⟩

end Tree

end Symbols

open Symbols

-- A list is refused exactly when a parent is listed, but not before its child; the first such child
-- is named. From any other list in depth-first order every name is shown, below the symbol of its
-- parent if that is listed and at the top if not, in the order of the list.
theorem symbol_tree_follows_parents (uri : Uri) (lines : List String) (names : List SymbolName)
    (distinct : (names.map SymbolName.id).Nodup) :
    ((∃ e, ofNames .hierarchical uri lines names = .error e) ↔
      ∃ earlier child later parent, names = earlier ++ child :: later ∧
        Misplaced names earlier child parent) ∧
    (∀ e, ofNames .hierarchical uri lines names = .error e →
      ∃ earlier child later, names = earlier ++ child :: later ∧
        Misplaced names earlier child e.parent ∧ child.name = e.child ∧ Orderly names earlier) ∧
    ∀ answer, ofNames .hierarchical uri lines names = .ok answer → DepthFirst names →
      (∀ name ∈ names, name.kind = .param → ∀ child ∈ names, child.parentId ≠ some name.id) →
      ∃ trees, answer = (if names = [] then none else some (.nested trees)) ∧
        List.Forall₂ (Shows lines names) (names.filter (isTop names)) trees ∧
        ∀ name ∈ names, name.kind ≠ .param →
          ∃ tree, Appears tree trees ∧ Shows lines names name tree := by
  have blank : Orderly names [] := by
    intro earlier child later parent cut
    simp at cut
  rcases checkOrder_outcome names [] [] (List.nil_append names).symm blank (by simp) with
    ⟨passed, orderly⟩ | ⟨earlier, child, later, parent, cut, misplaced, before, failed⟩
  next =>
    have made : ofNames .hierarchical uri lines names =
        .ok (if names = [] then none
          else some (.nested (nestedFrom lines (names.length + 1) none names).1)) := by
      unfold ofNames
      rw [passed]
      cases names <;> rfl
    refine ⟨iff_of_false ?_ ?_, ?_, ?_⟩
    · rintro ⟨e, failed⟩
      cases made.symm.trans failed
    · rintro ⟨earlier, child, later, parent, cut, misplaced⟩
      exact orderly earlier child later parent cut misplaced
    · intro e failed
      cases made.symm.trans failed
    · intro answer accepted depthFirst leaves
      cases made.symm.trans accepted
      have laid : Laid names := ⟨distinct, orderly, depthFirst, leaves⟩
      obtain ⟨trees, nested, tops⟩ := nestedFrom_top lines laid (names.length + 1) []
        names (Nat.lt_succ_self _) rfl (by simp)
      refine ⟨trees, by rw [nested], tops, fun name listed shown => ?_⟩
      obtain ⟨earlier, later, cut⟩ := List.append_of_mem listed
      exact shows_appears laid tops cut shown
  next =>
    have made : ofNames .hierarchical uri lines names =
        .error { child := child.name, parent } := by
      unfold ofNames
      rw [failed]
      cases names with
      | nil => simp at cut
      | cons => rfl
    refine ⟨iff_of_true ⟨_, made⟩ ⟨earlier, child, later, parent, cut, misplaced⟩, ?_, ?_⟩
    · intro e failed
      cases made.symm.trans failed
      exact ⟨earlier, child, later, cut, misplaced, rfl, before⟩
    · intro answer accepted
      cases made.symm.trans accepted

def SymbolName.bare (id : UInt32) (parentId : Option UInt32) (name : String) (kind : NameKind) :
    SymbolName :=
  { id, parentId, name, kind, line := id, column := 0, fullName := none, parentFullName := none
    moduleName := "app" }

def classWithMethod : List SymbolName :=
  [.bare 1 none "A" .classDef, .bare 2 (some 1) "f" .function, .bare 3 (some 2) "self" .param,
    .bare 4 (some 1) "y" .statement]

theorem classWithMethod_depthFirst : DepthFirst classWithMethod := by
  intro earlier parent between child later cut has name member
  have method : Descendant classWithMethod (.bare 1 none "A" .classDef)
      (.bare 2 (some 1) "f" .function) := .child _ (by decide) rfl
  have self : Descendant classWithMethod (.bare 1 none "A" .classDef)
      (.bare 3 (some 2) "self" .param) := .deeper _ _ method (by decide) rfl
  simp only [classWithMethod, List.cons_eq_append_iff, List.cons.injEq, List.append_eq_cons_iff,
    List.nil_eq, List.append_eq_nil_iff, reduceCtorEq, and_false, exists_const, or_false,
    ↓existsAndEq, true_and, or_self] at cut
  rcases cut with ⟨-, rfl, ⟨rfl, -⟩ | ⟨_, rfl, ⟨-, rfl, -⟩ | ⟨rfl, rfl, -⟩⟩⟩ |
    ⟨_, -, ⟨-, rfl, ⟨rfl, -⟩ | ⟨-, rfl, -⟩⟩ | ⟨-, rfl, rfl, -⟩⟩
  · cases member
  · cases has
  · simp only [List.mem_cons, List.not_mem_nil, or_false] at member
    rcases member with rfl | rfl
    · exact method
    · exact self
  · cases member
  · exact absurd has (by decide)
  · cases member

theorem symbol_tree_shows_class_with_method :
    ∃ trees, ofNames .hierarchical ⟨"file:///app.py"⟩ [] classWithMethod =
        .ok (some (.nested trees)) ∧
      List.Forall₂ (Shows [] classWithMethod) [.bare 1 none "A" .classDef] trees ∧
      classWithMethod.filter (isChildOf (.bare 1 none "A" .classDef)) =
        [.bare 2 (some 1) "f" .function, .bare 4 (some 1) "y" .statement] := by
  obtain ⟨-, -, shows⟩ := symbol_tree_follows_parents ⟨"file:///app.py"⟩ [] classWithMethod
    (by decide)
  cases made : ofNames .hierarchical ⟨"file:///app.py"⟩ [] classWithMethod with
  | error e => cases made
  | ok answer =>
    obtain ⟨trees, nested, tops, -⟩ := shows answer made classWithMethod_depthFirst (by decide)
    exact ⟨trees, by rw [nested]; rfl, tops, by decide⟩

end PythonAssist
