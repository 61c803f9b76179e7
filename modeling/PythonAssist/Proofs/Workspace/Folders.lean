import Mathlib.Data.Set.Insert
import PythonAssist.Proofs.Text.Splitting
import PythonAssist.Workspace

set_option autoImplicit false

namespace PythonAssist

theorem eq_of_prefix_of_size_le {shorter longer : String}
    (front : shorter.toList <+: longer.toList)
    (size : longer.utf8ByteSize ≤ shorter.utf8ByteSize) : shorter = longer := by
  obtain ⟨more, whole⟩ := front
  have split : longer = shorter ++ String.ofList more := by
    rw [← String.toList_inj, String.toList_append, String.toList_ofList, whole]
  subst split
  rw [String.utf8ByteSize_append] at size
  have nothing : (String.ofList more).utf8ByteSize = 0 := by omega
  rw [String.utf8ByteSize_eq_zero_iff] at nothing
  rw [nothing, String.append_empty]

theorem eq_of_prefix_of_size {first second whole : String}
    (front : first.toList <+: whole.toList) (other : second.toList <+: whole.toList)
    (size : first.utf8ByteSize = second.utf8ByteSize) : first = second := by
  rcases List.prefix_or_prefix_of_prefix front other with inside | inside
  · exact eq_of_prefix_of_size_le inside size.ge
  · exact (eq_of_prefix_of_size_le inside size.le).symm

namespace Uri

def withoutSlash (text : List Char) : List Char :=
  if text.getLast? = some '/' then text.dropLast else text

def Encloses (folder document : Uri) : Prop :=
  document = folder ∨ withoutSlash folder.text.toList ++ ['/'] <+: document.text.toList

def IsFile (uri : Uri) : Prop := lower (uri.text.toList.take 5) = "file:".toList

theorem eq_iff_toList {first second : Uri} :
    first = second ↔ first.text.toList = second.text.toList := by
  cases first
  cases second
  simp [String.toList_inj]

end Uri

namespace Workspace

open Uri (withoutSlash)

theorem holds_iff_rest {folder document : List Char} :
    holds folder document = true ↔ ∃ rest, document = folder ++ rest ∧
      (rest = [] ∨ rest.head? = some '/' ∨ folder.getLast? = some '/') := by
  unfold holds
  cases found : stripFront folder document with
  | none =>
    have apart (rest : List Char) : document ≠ folder ++ rest := fun whole =>
      nomatch found.symm.trans (stripFront_eq_some_iff.mpr whole)
    simp [apart]
  | some rest =>
    obtain rfl := stripFront_eq_some_iff.mp found
    simp [endsWithSlash, or_assoc]

theorem holds_iff {folder document : Uri} :
    holds folder.text.toList document.text.toList = true ↔ folder.Encloses document := by
  rw [holds_iff_rest, Uri.Encloses, Uri.eq_iff_toList]
  generalize folder.text.toList = front
  generalize document.text.toList = text
  by_cases slash : front.getLast? = some '/'
  next =>
    obtain ⟨body, rfl⟩ := List.getLast?_eq_some_iff.mp slash
    have bare : withoutSlash (body ++ ['/']) = body := by simp [withoutSlash]
    rw [bare]
    constructor
    · rintro ⟨rest, rfl, -⟩
      exact .inr (List.prefix_append _ _)
    · rintro (rfl | ⟨rest, rfl⟩)
      · exact ⟨[], by simp⟩
      · exact ⟨rest, rfl, .inr (.inr slash)⟩
  next =>
    have bare : withoutSlash front = front := by simp [withoutSlash, slash]
    rw [bare]
    constructor
    · rintro ⟨rest, rfl, rfl | head | last⟩
      · exact .inl (List.append_nil front)
      · obtain ⟨more, rfl⟩ := List.head?_eq_some_iff.mp head
        exact .inr ⟨more, by simp⟩
      · exact absurd last slash
    · rintro (rfl | ⟨more, rfl⟩)
      · exact ⟨[], by simp⟩
      · exact ⟨'/' :: more, by simp⟩

theorem deepest_eq_none_iff {folders : List WorkspaceFolder} :
    deepest folders = none ↔ folders = [] := by
  cases folders with
  | nil => simp [deepest]
  | cons folder rest =>
    rw [deepest]
    split
    next => simp
    next => split <;> simp

theorem deepest_mem {folders : List WorkspaceFolder} {folder : WorkspaceFolder}
    (found : deepest folders = some folder) : folder ∈ folders := by
  induction folders generalizing folder with
  | nil => cases found
  | cons first rest ih =>
    rw [deepest] at found
    split at found
    next =>
      cases found
      exact List.mem_cons_self
    next other below =>
      split at found <;> cases found
      · exact List.mem_cons_self
      · exact List.mem_cons_of_mem _ (ih below)

theorem size_le_deepest {folders : List WorkspaceFolder} {folder : WorkspaceFolder}
    (found : deepest folders = some folder) :
    ∀ other ∈ folders, other.uri.text.utf8ByteSize ≤ folder.uri.text.utf8ByteSize := by
  induction folders generalizing folder with
  | nil => cases found
  | cons first rest ih =>
    intro other member
    rw [deepest] at found
    split at found
    next nothing =>
      cases found
      obtain rfl := deepest_eq_none_iff.mp nothing
      obtain rfl := List.mem_singleton.mp member
      exact le_rfl
    next deep below =>
      have bound := ih below
      split at found <;> cases found
      next deeper =>
        rcases List.mem_cons.mp member with rfl | inside
        · exact le_rfl
        · exact (bound other inside).trans deeper.le
      next shallow =>
        rcases List.mem_cons.mp member with rfl | inside
        · exact not_lt.mp shallow
        · exact bound other inside

def urisOf (folders : List WorkspaceFolder) : Set Uri :=
  {uri | ∃ folder ∈ folders, folder.uri = uri}

def registered (workspace : Workspace) : Set Uri := urisOf workspace.folders

def revise (registered : Set Uri) (change : FoldersChange) : Set Uri :=
  (registered \ urisOf change.removed) ∪ urisOf change.added

theorem urisOf_addFolder (folders : List WorkspaceFolder) (folder : WorkspaceFolder) :
    urisOf (addFolder folders folder) = insert folder.uri (urisOf folders) := by
  ext uri
  unfold addFolder
  split
  next known =>
    obtain ⟨twin, inside, same⟩ := List.any_eq_true.mp known
    have there : folder.uri ∈ urisOf folders := ⟨twin, inside, by simpa using same⟩
    rw [Set.insert_eq_of_mem there]
  next => simp [urisOf, or_and_right, exists_or, or_comm, eq_comm]

theorem urisOf_foldl_addFolder (added folders : List WorkspaceFolder) :
    urisOf (added.foldl addFolder folders) = urisOf folders ∪ urisOf added := by
  induction added generalizing folders with
  | nil => simp [urisOf]
  | cons folder rest ih =>
    have front : urisOf (folder :: rest) = insert folder.uri (urisOf rest) := by
      ext uri
      simp [urisOf, eq_comm]
    rw [List.foldl_cons, ih, urisOf_addFolder, front, Set.insert_union, Set.union_insert]

theorem registered_apply (workspace : Workspace) (change : FoldersChange) :
    (workspace.apply change).registered = revise workspace.registered change := by
  unfold registered apply revise
  rw [urisOf_foldl_addFolder]
  congr 1
  ext uri
  simp only [urisOf, List.mem_filter, Set.mem_ofPred_eq, Set.mem_sdiff]
  constructor
  · rintro ⟨folder, ⟨inside, kept⟩, rfl⟩
    exact ⟨⟨folder, inside, rfl⟩, by simpa using kept⟩
  · rintro ⟨⟨folder, inside, rfl⟩, kept⟩
    exact ⟨folder, ⟨inside, by simpa using kept⟩, rfl⟩

theorem registered_foldl_apply (changes : List FoldersChange) (workspace : Workspace) :
    (changes.foldl apply workspace).registered =
      changes.foldl revise workspace.registered := by
  induction changes generalizing workspace with
  | nil => rfl
  | cons change rest ih => rw [List.foldl_cons, ih, registered_apply, List.foldl_cons]

theorem root_foldl_apply (changes : List FoldersChange) (workspace : Workspace) :
    (changes.foldl apply workspace).root = workspace.root := by
  induction changes generalizing workspace with
  | nil => rfl
  | cons change rest ih => exact ih _

structure IsDeepest (registered : Set Uri) (document folder : Uri) : Prop where
  known : folder ∈ registered
  encloses : folder.Encloses document
  longest : ∀ other ∈ registered, other.Encloses document → other ≠ folder →
    other.text.utf8ByteSize < folder.text.utf8ByteSize

theorem IsDeepest.unique {registered : Set Uri} {document first second : Uri}
    (deepest : IsDeepest registered document first)
    (other : IsDeepest registered document second) : first = second := by
  by_contra different
  have shorter := deepest.longest second other.known other.encloses (Ne.symm different)
  have longer := other.longest first deepest.known deepest.encloses different
  omega

theorem startsWith_of_encloses {folder document : Uri} (encloses : folder.Encloses document) :
    folder.text.toList <+: document.text.toList := by
  obtain ⟨rest, whole, -⟩ := holds_iff_rest.mp (holds_iff.mpr encloses)
  exact ⟨rest, whole.symm⟩

theorem folderOf_isDeepest {workspace : Workspace} {document : Uri} {folder : WorkspaceFolder}
    (found : workspace.folderOf document = some folder) :
    IsDeepest workspace.registered document folder.uri := by
  obtain ⟨inside, held⟩ := List.mem_filter.mp (deepest_mem found)
  have encloses := holds_iff.mp held
  refine ⟨⟨folder, inside, rfl⟩, encloses, ?_⟩
  rintro _ ⟨other, known, rfl⟩ around different
  have bound := size_le_deepest found other (List.mem_filter.mpr ⟨known, holds_iff.mpr around⟩)
  refine lt_of_le_of_ne bound fun same => different ?_
  have texts :=
    eq_of_prefix_of_size (startsWith_of_encloses around) (startsWith_of_encloses encloses) same
  exact Uri.eq_iff_toList.mpr (congrArg String.toList texts)

theorem folderOf_eq_none_iff {workspace : Workspace} {document : Uri} :
    workspace.folderOf document = none ↔
      ∀ folder ∈ workspace.registered, ¬ folder.Encloses document := by
  rw [folderOf, deepest_eq_none_iff, List.filter_eq_nil_iff]
  constructor
  · rintro outside _ ⟨folder, known, rfl⟩ around
    exact outside folder known (holds_iff.mpr around)
  · intro outside folder known held
    exact outside folder.uri ⟨folder, known, rfl⟩ (holds_iff.mp held)

theorem folderOf_uri_eq_some_iff {workspace : Workspace} {document folder : Uri} :
    (workspace.folderOf document).map WorkspaceFolder.uri = some folder ↔
      IsDeepest workspace.registered document folder := by
  constructor
  · intro found
    obtain ⟨entry, deep, rfl⟩ := Option.map_eq_some_iff.mp found
    exact folderOf_isDeepest deep
  · intro deepest
    cases found : workspace.folderOf document with
    | none =>
      exact absurd deepest.encloses (folderOf_eq_none_iff.mp found folder deepest.known)
    | some entry => exact congrArg some ((folderOf_isDeepest found).unique deepest)

theorem folderPathFor_eq (workspace : Workspace) (document : Uri) :
    workspace.folderPathFor document =
      (((workspace.folderOf document).map WorkspaceFolder.uri).bind Uri.toPath).or
        workspace.root := by
  rw [folderPathFor, Option.bind_map]
  rfl

theorem folderPathFor_of_isDeepest {workspace : Workspace} {document folder : Uri}
    (deepest : IsDeepest workspace.registered document folder) :
    workspace.folderPathFor document = folder.toPath.or workspace.root := by
  rw [folderPathFor_eq, folderOf_uri_eq_some_iff.mpr deepest, Option.bind_some]

theorem folderPathFor_of_outside {workspace : Workspace} {document : Uri}
    (outside : ∀ folder ∈ workspace.registered, ¬ folder.Encloses document) :
    workspace.folderPathFor document = workspace.root := by
  rw [folderPathFor, folderOf_eq_none_iff.mpr outside]
  rfl

theorem exists_isDeepest {workspace : Workspace} {document folder : Uri}
    (known : folder ∈ workspace.registered) (around : folder.Encloses document) :
    ∃ deepest, IsDeepest workspace.registered document deepest := by
  cases found : workspace.folderOf document with
  | none => exact absurd around (folderOf_eq_none_iff.mp found folder known)
  | some entry => exact ⟨entry.uri, folderOf_isDeepest found⟩

theorem folderPathFor_congr {first second : Workspace} (roots : first.root = second.root)
    (same : first.registered = second.registered) (document : Uri) :
    first.folderPathFor document = second.folderPathFor document := by
  rw [folderPathFor_eq, folderPathFor_eq, roots]
  congr 2
  ext folder
  rw [folderOf_uri_eq_some_iff, folderOf_uri_eq_some_iff, same]

end Workspace

open Workspace in
-- The folders are those of the beginning as the events have left them. A document has the path of
-- the deepest folder around it, or the root where there is none or where that one has no path. A
-- folder that is no file counts as outside just if it has no path or the path of the root.
theorem folder_path_is_of_deepest_folder (offer : WorkspaceOffer)
    (changes : List FoldersChange) :
    let initial := Workspace.ofOffer offer
    let workspace := changes.foldl Workspace.apply initial
    let registered := changes.foldl revise (urisOf offer.folders)
    workspace.registered = registered ∧ workspace.root = initial.root ∧
      ∀ document : Uri,
        ((∃ folder ∈ registered, folder.Encloses document) →
          ∃ folder, IsDeepest registered document folder) ∧
        (∀ folder, IsDeepest registered document folder →
          workspace.folderPathFor document = folder.toPath.or initial.root) ∧
        ((∀ folder ∈ registered, ¬ folder.Encloses document) →
          workspace.folderPathFor document = initial.root) ∧
        (∀ folder, IsDeepest registered document folder → ¬ folder.IsFile →
          (workspace.folderPathFor document = initial.root ↔
            folder.toPath = none ∨ folder.toPath = initial.root)) ∧
        ∀ folders, urisOf folders = registered →
          Workspace.folderPathFor ⟨initial.root, folders⟩ document =
            workspace.folderPathFor document := by
  intro initial workspace registered
  have known : workspace.registered = registered := registered_foldl_apply changes initial
  have root : workspace.root = initial.root := root_foldl_apply changes initial
  refine ⟨known, root, fun document => ?_⟩
  rw [← known, ← root]
  refine ⟨?_, fun folder => folderPathFor_of_isDeepest, folderPathFor_of_outside, ?_, ?_⟩
  · rintro ⟨folder, inside, around⟩
    exact exists_isDeepest inside around
  · intro folder deepest _
    rw [folderPathFor_of_isDeepest deepest]
    cases folder.toPath <;> simp
  · intro folders same
    exact @folderPathFor_congr ⟨workspace.root, folders⟩ workspace rfl same document

-- An unsaved document's folder is no file, and yet its path is taken for that of a folder.
theorem folder_path_of_unsaved_folder :
    let root : Uri := ⟨"file:///root"⟩
    let unsaved : Uri := ⟨"untitled:/ws"⟩
    let document : Uri := ⟨"untitled:/ws/a.py"⟩
    let workspace := Workspace.ofOffer ⟨some root, none, [⟨unsaved, "ws"⟩]⟩
    Workspace.IsDeepest workspace.registered document unsaved ∧ ¬ unsaved.IsFile ∧
      workspace.root = some (Path.ofString "/root") ∧
      workspace.folderPathFor document = some (Path.ofString "/ws") := by
  intro root unsaved document workspace
  have found : (workspace.folderOf document).map WorkspaceFolder.uri = some unsaved := by
    decide +kernel
  refine ⟨Workspace.folderOf_uri_eq_some_iff.mp found, ?_, ?_, ?_⟩
  · unfold Uri.IsFile
    decide +kernel
  · decide +kernel
  · decide +kernel

end PythonAssist
