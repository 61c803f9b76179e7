import PythonAssist.Proofs.Diff.Sides

set_option autoImplicit false

namespace PythonAssist.Diff

variable {A : Type}

structure Rearranges (before after : List (Block A)) : Prop where
  old : oldSide after = oldSide before
  new : newSide after = newSide before
  solid : Solid before → Solid after

theorem Rearranges.describes {before after : List (Block A)} {old new : List A}
    (rearranges : Rearranges before after) (described : Describes before old new) :
    Describes after old new := by
  refine ⟨⟨?_, ?_⟩, rearranges.solid described.solid⟩
  · rw [rearranges.old, described.valid.1]
  · rw [rearranges.new, described.valid.2]

theorem solid_append {first second : List (Block A)} :
    Solid (first ++ second) ↔ Solid first ∧ Solid second := by
  simp [Solid, or_imp, forall_and]

theorem keep_append (lines : List A) (first second : List (Block A)) :
    keep lines first ++ second = keep lines (first ++ second) := by
  cases lines <;> simp [keep]

theorem oldSide_keep (lines : List A) (script : List (Block A)) :
    oldSide (keep lines script) = lines ++ oldSide script := by
  cases lines <;> simp [keep, oldSide_cons, Block.old]

theorem newSide_keep (lines : List A) (script : List (Block A)) :
    newSide (keep lines script) = lines ++ newSide script := by
  cases lines <;> simp [keep, newSide_cons, Block.new]

theorem solid_keep (lines : List A) (script : List (Block A)) :
    Solid (keep lines script) ↔ Solid script := by
  cases lines <;> simp [keep, Solid]

theorem solid_insert_cons {lines : List A} {script : List (Block A)} :
    Solid (.insert lines :: script) ↔ Solid script := by
  simp [Solid]

theorem solid_nil : Solid ([] : List (Block A)) := by simp [Solid]

theorem solid_equal_cons {lines : List A} {script : List (Block A)} :
    Solid (.equal lines :: script) ↔ lines ≠ [] ∧ Solid script := by
  simp [Solid]

namespace Rearranges

variable {first second third : List (Block A)}

theorem refl (script : List (Block A)) : Rearranges script script :=
  ⟨rfl, rfl, id⟩

theorem trans (one : Rearranges first second) (other : Rearranges second third) :
    Rearranges first third :=
  ⟨other.old.trans one.old, other.new.trans one.new, other.solid ∘ one.solid⟩

theorem around (inner : Rearranges first second) (front back : List (Block A)) :
    Rearranges (front ++ (first ++ back)) (front ++ (second ++ back)) := by
  refine ⟨?_, ?_, ?_⟩
  · simp only [oldSide_append, inner.old]
  · simp only [newSide_append, inner.new]
  · simp only [solid_append]
    exact fun ⟨before, middle, after⟩ => ⟨before, inner.solid middle, after⟩

theorem deleteInsert (removed inserted : List A) :
    Rearranges [.delete removed, .insert inserted] [.insert inserted, .delete removed] := by
  refine ⟨?_, ?_, ?_⟩ <;> simp [oldSide, newSide, Block.old, Block.new, Solid]

theorem insertDelete (removed inserted : List A) :
    Rearranges [.insert inserted, .delete removed] [.delete removed, .insert inserted] := by
  refine ⟨?_, ?_, ?_⟩ <;> simp [oldSide, newSide, Block.old, Block.new, Solid]

theorem joinDeletes (one other : List A) :
    Rearranges [.delete one, .delete other] [.delete (one ++ other)] := by
  refine ⟨?_, ?_, ?_⟩ <;> simp [oldSide, newSide, Block.old, Block.new, Solid]

theorem joinInserts (one other : List A) :
    Rearranges [.insert one, .insert other] [.insert (one ++ other)] := by
  refine ⟨?_, ?_, ?_⟩ <;> simp [oldSide, newSide, Block.old, Block.new, Solid]

theorem pushEqual (lines : List A) (rest : List (Block A)) :
    Rearranges (keep lines rest) (if lines.isEmpty then rest else pushEqual lines rest) := by
  unfold Diff.pushEqual keep
  split
  next => exact refl rest
  next some =>
    split
    next next rest =>
      refine ⟨?_, ?_, ?_⟩
      · simp [oldSide_cons, Block.old]
      · simp [newSide_cons, Block.new]
      · simp only [solid_equal_cons]
        exact fun solid => ⟨by simp [solid.1], solid.2.2⟩
    next => simpa [some] using refl _

theorem pushEqualBefore (lines : List A) (before : List (Block A)) :
    Rearranges (before.reverse ++ keep lines [])
      (if lines.isEmpty then before else pushEqualBefore lines before).reverse := by
  unfold Diff.pushEqualBefore keep
  split
  next => simpa using refl before.reverse
  next some =>
    split
    next last before =>
      have joined : Rearranges [.equal last, .equal lines] [.equal (last ++ lines)] := by
        refine ⟨?_, ?_, ?_⟩
        · simp [oldSide, Block.old]
        · simp [newSide, Block.new]
        · simp only [solid_equal_cons]
          exact fun solid => ⟨by simp [solid.1], solid.2.2⟩
      simpa using joined.around before.reverse []
    next => simpa [some] using refl _

end Rearranges

section Slides

variable [DecidableEq A]

theorem slideUp_append (before inserted after : List A) :
    let slid := slideUp before inserted after
    slid.1.reverse ++ slid.2.2 = before.reverse ++ after ∧
      slid.1.reverse ++ slid.2.1.reverse ++ slid.2.2 =
        before.reverse ++ inserted.reverse ++ after := by
  fun_induction slideUp before inserted after with
  | case1 before b inserted after ih => simpa using ih
  | case2 => simp
  | case3 => simp

theorem slideDown_append (inserted after passed : List A) :
    let slid := slideDown inserted after passed
    slid.2.2.reverse ++ slid.2.1 = passed.reverse ++ after ∧
      slid.2.2.reverse ++ slid.1 ++ slid.2.1 = passed.reverse ++ inserted ++ after := by
  fun_induction slideDown inserted after passed with
  | case1 => simp
  | case2 => simp
  | case3 passed b inserted after ih => simpa using ih
  | case4 => simp

theorem slideUp_rearranges {lines inserted left moved passed : List A}
    (slid : slideUp lines.reverse inserted.reverse [] = (left, moved, passed)) :
    Rearranges [.equal lines, .insert inserted]
      (keep left.reverse (.insert moved.reverse :: keep passed [])) := by
  have sides := slideUp_append lines.reverse inserted.reverse []
  simp only [slid] at sides
  refine ⟨?_, ?_, ?_⟩
  · simpa [oldSide_keep, oldSide_cons, oldSide_nil, Block.old] using sides.1
  · simpa [newSide_keep, newSide_cons, newSide_nil, Block.new] using sides.2
  · simp only [solid_keep, solid_insert_cons, solid_nil, implies_true]

theorem slideDown_rearranges {lines inserted left moved passed : List A}
    (slid : slideDown inserted lines [] = (moved, left, passed)) :
    Rearranges [.insert inserted, .equal lines]
      (keep passed.reverse (.insert moved :: keep left [])) := by
  have sides := slideDown_append inserted lines []
  simp only [slid] at sides
  refine ⟨?_, ?_, ?_⟩
  · simpa [oldSide_keep, oldSide_cons, oldSide_nil, Block.old] using sides.1
  · simpa [newSide_keep, newSide_cons, newSide_nil, Block.new] using sides.2
  · simp only [solid_keep, solid_insert_cons, solid_nil, implies_true]

end Slides

def Focus.script (focus : Focus A) : List (Block A) :=
  focus.before.reverse ++ focus.change :: focus.after

section Compaction

variable [DecidableEq A]

theorem slideUp_pushed {lines inserted left moved passed : List A}
    (slid : slideUp lines.reverse inserted.reverse [] = (left, moved, passed))
    (before after : List (Block A)) :
    Rearranges ((Block.equal lines :: before).reverse ++ .insert inserted :: after)
      (before.reverse ++ keep left.reverse (.insert moved.reverse ::
        if passed.isEmpty then after else pushEqual passed after)) := by
  have slides := (slideUp_rearranges slid).around before.reverse after
  have pushes := (Rearranges.pushEqual passed after).around
    (before.reverse ++ keep left.reverse [.insert moved.reverse]) []
  simp only [keep_append, List.cons_append, List.nil_append, List.append_nil,
    List.append_assoc] at slides pushes
  simpa using slides.trans pushes

theorem slideDown_pushed {lines inserted left moved passed : List A}
    (slid : slideDown inserted lines [] = (moved, left, passed))
    (before after : List (Block A)) :
    Rearranges (before.reverse ++ .insert inserted :: .equal lines :: after)
      ((if passed.isEmpty then before else pushEqualBefore passed.reverse before).reverse ++
        .insert moved :: keep left after) := by
  have slides := (slideDown_rearranges slid).around before.reverse after
  have pushes := (Rearranges.pushEqualBefore passed.reverse before).around []
    (.insert moved :: keep left after)
  simp only [keep_append, List.cons_append, List.nil_append, List.append_assoc,
    List.isEmpty_reverse] at slides pushes
  exact slides.trans pushes

theorem moveUp_rearranges (before : List (Block A)) (change : Block A) (after : List (Block A)) :
    Rearranges (before.reverse ++ change :: after) (moveUp before change after).script := by
  fun_induction moveUp before change after with
  | case1 lines before inserted after left moved passed slid pushed empty ih =>
    have slides := slideUp_pushed slid before after
    rw [List.isEmpty_iff.mp empty] at slides
    exact slides.trans ih
  | case2 lines before inserted after left moved passed slid pushed some =>
    have slides := slideUp_pushed slid before after
    simpa [keep, some, Focus.script, pushed] using slides
  | case3 lines before inserted after ih =>
    have swapped := (Rearranges.deleteInsert lines inserted).around before.reverse after
    exact .trans (by simpa using swapped) ih
  | case4 lines before inserted after ih =>
    have joined := (Rearranges.joinInserts lines inserted).around before.reverse after
    exact .trans (by simpa using joined) ih
  | case5 lines before removed after ih =>
    have swapped := (Rearranges.insertDelete removed lines).around before.reverse after
    exact .trans (by simpa using swapped) ih
  | case6 lines before removed after ih =>
    have joined := (Rearranges.joinDeletes lines removed).around before.reverse after
    exact .trans (by simpa using joined) ih
  | case7 => exact .refl _

theorem moveDown_rearranges (after before : List (Block A)) (change : Block A) :
    Rearranges (before.reverse ++ change :: after) (moveDown after before change).script := by
  fun_induction moveDown after before change with
  | case1 lines after before inserted moved left passed slid pushed empty ih =>
    have slides := slideDown_pushed slid before after
    rw [List.isEmpty_iff.mp empty] at slides
    exact slides.trans ih
  | case2 lines after before inserted moved left passed slid pushed some =>
    have slides := slideDown_pushed slid before after
    simpa [keep, some, Focus.script, pushed] using slides
  | case3 lines after before inserted ih =>
    have swapped := (Rearranges.insertDelete lines inserted).around before.reverse after
    exact .trans (by simpa using swapped) (by simpa using ih)
  | case4 lines after before inserted ih =>
    have joined := (Rearranges.joinInserts inserted lines).around before.reverse after
    exact .trans (by simpa using joined) ih
  | case5 lines after before removed ih =>
    have swapped := (Rearranges.deleteInsert removed lines).around before.reverse after
    exact .trans (by simpa using swapped) (by simpa using ih)
  | case6 lines after before removed ih =>
    have joined := (Rearranges.joinDeletes removed lines).around before.reverse after
    exact .trans (by simpa using joined) ih
  | case7 => exact .refl _

theorem settle_rearranges (before : List (Block A)) (change : Block A) (after : List (Block A)) :
    Rearranges (before.reverse ++ change :: after) (settle before change after).script :=
  (moveUp_rearranges before change after).trans (moveDown_rearranges _ _ _)

theorem compactWhere_rearranges (chosen : Block A → Bool) (fuel : Nat)
    (before after : List (Block A)) :
    Rearranges (before.reverse ++ after) (compactWhere chosen fuel before after) := by
  induction fuel generalizing before after with
  | zero => exact .refl _
  | succ fuel ih =>
    cases after with
    | nil => simpa [compactWhere] using Rearranges.refl before.reverse
    | cons block after =>
      rw [compactWhere]
      split
      next =>
        have rest := ih ((settle before block after).change :: (settle before block after).before)
          (settle before block after).after
        rw [List.reverse_cons, List.append_assoc] at rest
        exact (settle_rearranges before block after).trans rest
      next => simpa using ih (block :: before) after

theorem compactWhere_unchosen {chosen : Block A → Bool} {after : List (Block A)}
    (unchosen : ∀ block ∈ after, chosen block = false) (fuel : Nat) (before : List (Block A)) :
    compactWhere chosen fuel before after = before.reverse ++ after := by
  induction fuel generalizing before after with
  | zero => rfl
  | succ fuel ih =>
    cases after with
    | nil => simp [compactWhere]
    | cons block after =>
      obtain ⟨first, rest⟩ := List.forall_mem_cons.mp unchosen
      simp [compactWhere, first, ih rest]

theorem compact_rearranges (script : List (Block A)) : Rearranges script (compact script) :=
  (compactWhere_rearranges Block.isDelete _ [] script).trans
    (compactWhere_rearranges Block.isInsert _ [] _)

end Compaction

def Run.script (run : Run A) : List (Block A) := [.delete run.removed, .insert run.inserted]

theorem Run.block_rearranges (run : Run A) : Rearranges run.script run.block := by
  obtain ⟨removed, inserted⟩ := run
  unfold block
  split <;> refine ⟨?_, ?_, ?_⟩ <;>
    simp_all [script, oldSide, newSide, Block.old, Block.new, Solid]

theorem Run.empty_rearranges : Rearranges [] (Run.script (⟨[], []⟩ : Run A)) := by
  refine ⟨?_, ?_, ?_⟩ <;> simp [script, oldSide, newSide, Block.old, Block.new, Solid]

theorem Run.add_rearranges (run : Run A) (block : Block A) :
    Rearranges (run.script ++ [block])
      (Run.script ⟨run.removed ++ block.old, run.inserted ++ block.new⟩) := by
  refine ⟨?_, ?_, ?_⟩
  · simp [script, oldSide, Block.old]
  · simp [script, newSide, Block.new]
  · simp [script, Solid]

theorem joinRuns_rearranges (run : Run A) (script : List (Block A)) :
    Rearranges (run.script ++ script) (joinRuns run script) := by
  fun_induction joinRuns run script with
  | case1 run => simpa using run.block_rearranges
  | case2 run lines rest ih =>
    have block := run.block_rearranges.around [] (.equal lines :: rest)
    have others := (Run.empty_rearranges.around [] rest).trans ih
    have around := others.around (run.block ++ [.equal lines]) []
    simp only [List.append_nil, List.append_assoc, List.cons_append, List.nil_append]
      at around block
    exact block.trans around
  | case3 run lines rest ih =>
    have added := (run.add_rearranges (.delete lines)).around [] rest
    exact .trans (by simpa using added) (by simpa [Block.old, Block.new] using ih)
  | case4 run lines rest ih =>
    have added := (run.add_rearranges (.insert lines)).around [] rest
    exact .trans (by simpa using added) (by simpa [Block.old, Block.new] using ih)
  | case5 run removed inserted rest ih =>
    have added := (run.add_rearranges (.replace removed inserted)).around [] rest
    exact .trans (by simpa using added) (by simpa [Block.old, Block.new] using ih)

section Script

variable [DecidableEq A]

theorem script_describes (old new : List A) : Describes (script old new) old new := by
  have joined := (Run.empty_rearranges.around [] _).trans (joinRuns_rearranges ⟨[], []⟩
    (compact (search (old.length + new.length + 1) old new)))
  have compacted := compact_rearranges (search (old.length + new.length + 1) old new)
  exact (compacted.trans joined).describes (search_describes _ old new)

theorem script_self (lines : List A) : script lines lines = keep lines [] := by
  have unchosen (chosen : Block A → Bool) (equal : ∀ lines, chosen (.equal lines) = false) :
      ∀ block ∈ keep lines [], chosen block = false := by
    unfold keep
    split <;> simp [equal]
  rw [script, search_self, compact, compactWhere_unchosen (unchosen _ fun _ => rfl),
    List.reverse_nil, List.nil_append, compactWhere_unchosen (unchosen _ fun _ => rfl),
    List.reverse_nil, List.nil_append]
  unfold keep
  split <;> rfl

end Script

end PythonAssist.Diff
