import Mathlib.Data.List.Forall2
import PythonAssist.Proofs.Edit.TextEdits
import PythonAssist.Proofs.Path.Order
import PythonAssist.Proofs.Session.Handles
import PythonAssist.Proofs.Session.Lifetime

set_option autoImplicit false

namespace PythonAssist

variable {W : Type}

theorem Edit.textEdits_turnsInto (old new : String)
    (fits : (splitLines old).length ≤ positionLimit) :
    ∃ edits, textEdits old new = .ok edits ∧ TurnsInto edits old new := by
  apply coalesce_turnsInto fits (Diff.script_describes _ _)
  rintro rfl
  rw [Diff.script_self]
  cases splitLines old <;> simp [Diff.keep, Diff.IsEqual]

def ChangedFile.IsChanged (file : ChangedFile) : Prop := file.oldCode ≠ file.newCode

instance (file : ChangedFile) : Decidable file.IsChanged := instDecidableNot

namespace Refactoring

def Fits (refactoring : Refactoring) : Prop :=
  ∀ file ∈ refactoring.changedFiles, (splitLines file.2.oldCode).length ≤ positionLimit

instance (refactoring : Refactoring) : Decidable refactoring.Fits := List.decidableBAll _ _

def changes (refactoring : Refactoring) : List (Path × ChangedFile) :=
  refactoring.changedFiles.filter fun file => file.2.IsChanged

end Refactoring

structure Rewrites (versionOf : Uri → Option Int) (file : Path × ChangedFile)
    (group : DocumentEdit) : Prop where
  uri : Uri.ofPath file.1 = .ok group.uri
  version : group.version = versionOf group.uri
  edits : TurnsInto group.edits file.2.oldCode file.2.newCode

theorem Rewrites.of_mem {versionOf : Uri → Option Int} {files : List (Path × ChangedFile)}
    {groups : List DocumentEdit} (matched : List.Forall₂ (Rewrites versionOf) files groups)
    {file : Path × ChangedFile} (member : file ∈ files) :
    ∃ group ∈ groups, Rewrites versionOf file group := by
  obtain ⟨place, inside, rfl⟩ := List.getElem_of_mem member
  have paired := matched.length_eq ▸ inside
  exact ⟨groups[place], List.getElem_mem paired, matched.get inside paired⟩

namespace DocumentEdit

variable (versionOf : Uri → Option Int)

theorem ofFile_unchanged (path : Path) {file : ChangedFile}
    (fits : (splitLines file.oldCode).length ≤ positionLimit) (unchanged : ¬file.IsChanged) :
    ofFile versionOf path file = .ok none := by
  obtain ⟨edits, computed, turns⟩ := Edit.textEdits_turnsInto file.oldCode file.newCode fits
  have none : edits = [] := turns.empty.mpr (not_not.mp unchanged)
  simp only [ofFile, computed, none]

theorem ofFile_changed (path : Path) {file : ChangedFile}
    (fits : (splitLines file.oldCode).length ≤ positionLimit) (changed : file.IsChanged) :
    (∃ cause, Uri.ofPath path = .error cause ∧
        ofFile versionOf path file = .error (.noUri cause)) ∨
      ∃ group, ofFile versionOf path file = .ok (some group) ∧
        Rewrites versionOf (path, file) group := by
  obtain ⟨edits, computed, turns⟩ := Edit.textEdits_turnsInto file.oldCode file.newCode fits
  unfold ofFile
  rw [computed]
  cases edits with
  | nil => exact absurd (turns.empty.mp rfl) changed
  | cons first rest =>
    cases named : Uri.ofPath path with
    | error cause => exact .inl ⟨cause, rfl, rfl⟩
    | ok uri => exact .inr ⟨_, rfl, named, rfl, turns⟩

theorem ofFiles_outcome (files : List (Path × ChangedFile))
    (fits : ∀ file ∈ files, (splitLines file.2.oldCode).length ≤ positionLimit) :
    let changed := files.filter fun file => file.2.IsChanged
    (∃ file ∈ changed, ∃ cause, Uri.ofPath file.1 = .error cause ∧
        ofFiles versionOf files = .error (.noUri cause)) ∨
      ∃ groups, ofFiles versionOf files = .ok groups ∧
        List.Forall₂ (Rewrites versionOf) changed groups := by
  induction files with
  | nil => exact .inr ⟨[], rfl, .nil⟩
  | cons file rest ih =>
    obtain ⟨path, file⟩ := file
    have room := fits (path, file) List.mem_cons_self
    have others := ih fun later member => fits later (List.mem_cons_of_mem _ member)
    by_cases changed : file.IsChanged
    next =>
      rw [List.filter_cons_of_pos (by simpa using changed)]
      rcases ofFile_changed versionOf path room changed with
        ⟨cause, rejected, failed⟩ | ⟨group, made, rewrites⟩
      · exact .inl ⟨_, List.mem_cons_self, cause, rejected, by simp only [ofFiles, failed]⟩
      · rcases others with ⟨other, member, cause, rejected, failed⟩ | ⟨groups, made', matched⟩
        · exact .inl ⟨other, List.mem_cons_of_mem _ member, cause, rejected,
            by simp only [ofFiles, made, failed]⟩
        · exact .inr ⟨group :: groups, by simp only [ofFiles, made, made']; rfl,
            .cons rewrites matched⟩
    next =>
      rw [List.filter_cons_of_neg (by simpa using changed)]
      have skipped := ofFile_unchanged versionOf path room changed
      rcases others with ⟨other, member, cause, rejected, failed⟩ | ⟨groups, made, matched⟩
      · exact .inl ⟨other, member, cause, rejected, by simp only [ofFiles, skipped, failed]⟩
      · exact .inr ⟨groups, by simp only [ofFiles, skipped, made]; rfl, matched⟩

theorem ofRefactoring_fails_iff {refactoring : Refactoring} (fits : refactoring.Fits) :
    (∃ e, ofRefactoring versionOf refactoring = .error e) ↔
      ∃ file ∈ refactoring.changes, ∃ cause, Uri.ofPath file.1 = .error cause := by
  rcases ofFiles_outcome versionOf _ fits with
    ⟨file, changed, cause, rejected, failed⟩ | ⟨groups, made, matched⟩
  next => exact iff_of_true ⟨_, failed⟩ ⟨file, changed, cause, rejected⟩
  next =>
    apply iff_of_false
    · rintro ⟨e, failed⟩
      cases made.symm.trans failed
    · rintro ⟨file, changed, cause, rejected⟩
      obtain ⟨group, -, rewrites⟩ := Rewrites.of_mem matched changed
      cases rejected.symm.trans rewrites.uri

theorem ofRefactoring_empty_iff {refactoring : Refactoring} (fits : refactoring.Fits) :
    ofRefactoring versionOf refactoring = .ok [] ↔
      ∀ file ∈ refactoring.changedFiles, file.2.oldCode = file.2.newCode := by
  have nothing : refactoring.changes = [] ↔
      ∀ file ∈ refactoring.changedFiles, file.2.oldCode = file.2.newCode := by
    simp only [Refactoring.changes, List.filter_eq_nil_iff, decide_eq_true_eq]
    simp only [ChangedFile.IsChanged, ne_eq, not_not]
  rw [← nothing]
  rcases ofFiles_outcome versionOf _ fits with
    ⟨file, changed, cause, -, failed⟩ | ⟨groups, made, matched⟩
  next =>
    apply iff_of_false
    · intro made
      cases made.symm.trans failed
    · exact List.ne_nil_of_mem changed
  next =>
    constructor
    · intro empty
      cases made.symm.trans empty
      exact List.forall₂_nil_right_iff.mp matched
    · intro none
      rw [← Refactoring.changes, none] at matched
      cases matched
      exact made

end DocumentEdit

namespace Session

variable {engine : Engine W}

theorem inlineEdits_empty_iff (handle : DocumentHandle) (place : Place) {held : Session W}
    (fits : ∀ refactoring, (engine.inlineAt handle.script place held.world).1 = .ok refactoring →
      refactoring.Fits) :
    ((inlineEdits engine handle place).run held).1 = .ok [] ↔
      (∃ reason, (engine.inlineAt handle.script place held.world).1 =
          .error (.refactoring reason)) ∨
        ∃ refactoring, (engine.inlineAt handle.script place held.world).1 = .ok refactoring ∧
          ∀ file ∈ refactoring.changedFiles, file.2.oldCode = file.2.newCode := by
  rw [run_inlineEdits]
  rcases asked : engine.inlineAt handle.script place held.world with ⟨cause | refactoring, world⟩
  next =>
    cases cause with
    | refactoring reason => exact iff_of_true rfl (.inl ⟨reason, rfl⟩)
    | _ =>
      apply iff_of_false
      · intro absurd
        cases absurd
      · rintro (⟨reason, absurd⟩ | ⟨refactoring, absurd, -⟩) <;> cases absurd
  next =>
    have empty := DocumentEdit.ofRefactoring_empty_iff held.documents.version?
      (fits refactoring (by rw [asked]))
    constructor
    · intro none
      refine .inr ⟨refactoring, rfl, empty.mp ?_⟩
      dsimp only [inlined] at none
      cases made : DocumentEdit.ofRefactoring held.documents.version? refactoring with
      | error e =>
        rw [made] at none
        cases none
      | ok edits =>
        rw [made] at none
        cases none
        rfl
    · rintro (⟨reason, absurd⟩ | ⟨given, same, unchanged⟩)
      · cases absurd
      · cases same
        dsimp only [inlined]
        rw [empty.mpr unchanged]
        rfl

theorem codeAction_null_of_handle {uri : Uri} {range : Range} (cursor : range.start = range.stop)
    {session held : Session W} {handle : DocumentHandle}
    (obtained : (handleFor engine uri).run session = (.ok handle, held)) :
    ((codeAction engine uri range).run session).1 = .ok .null ↔
      ((inlineEdits engine handle range.start.toPlace).run held).1 = .ok [] := by
  unfold codeAction
  rw [if_neg (not_not.mpr cursor), run_bind, obtained]
  dsimp only
  rw [run_bind]
  rcases (inlineEdits engine handle range.start.toPlace).run held with ⟨e | edits, after⟩
  next => exact iff_of_false (fun absurd => by cases absurd) fun absurd => by cases absurd
  next =>
    cases edits with
    | nil => exact iff_of_true rfl rfl
    | cons first rest =>
      exact iff_of_false (fun absurd => by cases absurd) fun absurd => by cases absurd

theorem codeAction_null_iff {uri : Uri} {range : Range} (cursor : range.start = range.stop)
    {session : Session W}
    (fits : ∀ handle held refactoring,
      (handleFor engine uri).run session = (.ok handle, held) →
      (engine.inlineAt handle.script range.start.toPlace held.world).1 = .ok refactoring →
      refactoring.Fits) :
    ((codeAction engine uri range).run session).1 = .ok .null ↔
      ∃ handle held, (handleFor engine uri).run session = (.ok handle, held) ∧
        ((∃ reason, (engine.inlineAt handle.script range.start.toPlace held.world).1 =
            .error (.refactoring reason)) ∨
          ∃ refactoring,
            (engine.inlineAt handle.script range.start.toPlace held.world).1 = .ok refactoring ∧
              ∀ file ∈ refactoring.changedFiles, file.2.oldCode = file.2.newCode) := by
  rcases obtained : (handleFor engine uri).run session with ⟨e | handle, held⟩
  next =>
    have failed : ((codeAction engine uri range).run session).1 = .error e := by
      unfold codeAction
      rw [if_neg (not_not.mpr cursor), run_bind, obtained]
    rw [failed]
    apply iff_of_false
    · intro absurd
      cases absurd
    · rintro ⟨handle, held, absurd, -⟩
      cases absurd
  next =>
    rw [codeAction_null_of_handle cursor obtained, inlineEdits_empty_iff handle _
      fun refactoring => fits handle held refactoring obtained]
    constructor
    · exact fun nothing => ⟨handle, held, rfl, nothing⟩
    · rintro ⟨handle, held, same, nothing⟩
      cases same
      exact nothing

end Session

open Session

-- A changed file without a URI is what fails a refactoring. Otherwise the changed files, and no
-- others, have one group each, in the order of their paths. At a cursor nothing is offered exactly
-- when the engine has nothing to inline there, or changes no file.
theorem refactoring_becomes_workspace_edit (versionOf : Uri → Option Int)
    (refactoring : Refactoring) (ordered : refactoring.Ordered) (fits : refactoring.Fits)
    (engine : Engine W) (session : Session W) (uri : Uri) (range : Range)
    (cursor : range.start = range.stop)
    (reported : ∀ handle held refactoring,
      (handleFor engine uri).run session = (.ok handle, held) →
      (engine.inlineAt handle.script range.start.toPlace held.world).1 = .ok refactoring →
      refactoring.Fits) :
    ((∃ e, DocumentEdit.ofRefactoring versionOf refactoring = .error e) ↔
      ∃ file ∈ refactoring.changes, ∃ cause, Uri.ofPath file.1 = .error cause) ∧
    (∀ groups, DocumentEdit.ofRefactoring versionOf refactoring = .ok groups →
      List.Forall₂ (Rewrites versionOf) refactoring.changes groups ∧
        refactoring.changes.Pairwise fun a b => a.1.before b.1 = true) ∧
    (((codeAction engine uri range).run session).1 = .ok .null ↔
      ∃ handle held, (handleFor engine uri).run session = (.ok handle, held) ∧
        ((∃ reason, (engine.inlineAt handle.script range.start.toPlace held.world).1 =
            .error (.refactoring reason)) ∨
          ∃ refactoring,
            (engine.inlineAt handle.script range.start.toPlace held.world).1 = .ok refactoring ∧
              ∀ file ∈ refactoring.changedFiles, file.2.oldCode = file.2.newCode)) := by
  refine ⟨DocumentEdit.ofRefactoring_fails_iff versionOf fits, fun groups made => ?_,
    codeAction_null_iff cursor reported⟩
  refine ⟨?_, ordered.filter _⟩
  rcases DocumentEdit.ofFiles_outcome versionOf _ fits with
    ⟨file, changed, cause, -, failed⟩ | ⟨others, same, matched⟩
  · cases failed.symm.trans made
  · cases same.symm.trans made
    exact matched

namespace CannedEngine

def inlining (refactoring : Refactoring) : Engine CannedEngine :=
  { engine with inlineAt := fun _ _ world => (.ok refactoring, world) }

-- The file without a URI stays as it is, and the changed files are not reported in order.
def inlinedName : Refactoring :=
  .ofFiles [
    (.ofString "/proj/b.py", { oldCode := "import a\nx = a.y\n", newCode := "import a\n" }),
    (.ofString "notes.py", { oldCode := "z\n", newCode := "z\n" }),
    (.ofString "/proj/a.py", { oldCode := "y = 1", newCode := "w = 1\n" })]

def untouched : Refactoring :=
  .ofFiles [(.ofString "notes.py", { oldCode := "z\n", newCode := "z\n" })]

def withOneDocument : Session CannedEngine :=
  ((create "python3" .default silent).lifetime launcher
    [.connect .bare .bare, .event (.message .bare (.notice (.didOpen newDocument)))]).session

end CannedEngine

open CannedEngine in
theorem inlined_name_becomes_workspace_edit :
    ∃ groups, DocumentEdit.ofRefactoring (fun _ => none) inlinedName = .ok groups ∧
      List.Forall₂ (Rewrites fun _ => none) inlinedName.changes groups ∧
      inlinedName.changes.map (fun file => file.1.display) = ["/proj/a.py", "/proj/b.py"] ∧
      ((codeAction (inlining untouched) newDocument.uri
        { start := .ofNat 0 0, stop := .ofNat 0 0 }).run withOneDocument).1 = .ok .null := by
  obtain ⟨fails, groups, null⟩ := refactoring_becomes_workspace_edit (fun _ => none) inlinedName
    (Refactoring.ofFiles_ordered _) (by decide +kernel) (inlining untouched) withOneDocument
    newDocument.uri { start := .ofNat 0 0, stop := .ofNat 0 0 } rfl (by
      rintro handle held refactoring - inlined
      cases inlined
      decide +kernel)
  have named : ¬∃ file ∈ inlinedName.changes, ∃ cause, Uri.ofPath file.1 = .error cause := by
    have sound : ∀ file ∈ inlinedName.changes, (Uri.ofPath file.1).isOk = true := by
      decide +kernel
    rintro ⟨file, changed, cause, rejected⟩
    have accepted := sound file changed
    rw [rejected] at accepted
    cases accepted
  cases made : DocumentEdit.ofRefactoring (fun _ => none) inlinedName with
  | error e => exact absurd (fails.mp ⟨e, made⟩) named
  | ok found =>
    refine ⟨found, rfl, (groups found made).1, by decide +kernel, null.mpr ?_⟩
    exact ⟨_, _, rfl, .inr ⟨untouched, rfl, by decide +kernel⟩⟩

end PythonAssist
