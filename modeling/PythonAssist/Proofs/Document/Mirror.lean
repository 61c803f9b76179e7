import PythonAssist.Proofs.Document.Offset

set_option autoImplicit false

namespace PythonAssist

open Lines

structure ChangeGroup where
  version : Int
  changes : List ContentChange
  deriving DecidableEq, Repr

def Document.follow (document : Document) (group : ChangeGroup) : Document :=
  { document with
    text := Document.applyChanges document.text group.changes
    version := group.version }

def DocumentStore.follow (store : DocumentStore) (uri : Uri) (groups : List ChangeGroup) :
    Option DocumentStore :=
  groups.foldlM (fun store group => store.change uri group.version group.changes) store

theorem DocumentStore.find?_change {store : DocumentStore} {uri : Uri} {document : Document}
    (isOpen : store.find? uri = some document) (group : ChangeGroup) :
    ∃ changed, store.change uri group.version group.changes = some changed ∧
      changed.find? uri = some (document.follow group) ∧
      ∀ other, other ≠ uri → changed.find? other = store.find? other := by
  refine ⟨{ documents := store.documents.insert uri (document.follow group) }, ?_, ?_, ?_⟩
  next => simp [change, isOpen, Document.follow]
  next => simp [find?, Table.find?_insert]
  next =>
    intro other different
    simp [find?, Table.find?_insert, different]

theorem DocumentStore.find?_follow {store : DocumentStore} {uri : Uri} {document : Document}
    (isOpen : store.find? uri = some document) (groups : List ChangeGroup) :
    ∃ followed, store.follow uri groups = some followed ∧
      followed.find? uri = some (groups.foldl Document.follow document) ∧
      ∀ other, other ≠ uri → followed.find? other = store.find? other := by
  induction groups generalizing store document with
  | nil => exact ⟨store, rfl, isOpen, fun _ _ => rfl⟩
  | cons group groups ih =>
    obtain ⟨changed, applied, found, others⟩ := find?_change isOpen group
    obtain ⟨followed, rest, last, rest_others⟩ := ih found
    refine ⟨followed, ?_, last, ?_⟩
    next => simpa [follow, applied] using rest
    next =>
      intro other different
      rw [rest_others other different, others other different]

def Position.Ends (position : Position) (text : List Char) : Prop :=
  position.line.toNat = terminators text ∧
    position.character.toNat = Units.count (unfinished text)

-- What an editor reports, with its text before and after. Neither end of what is replaced stands
-- between the characters of one '\r\n'.
inductive ContentChange.Reports : ContentChange → String → String → Prop
  | replaced (before old after new : String) (range : Range) :
      Apart before.toList (old ++ after).toList → Apart (before ++ old).toList after.toList →
      range.start.Ends before.toList → range.stop.Ends (before ++ old).toList →
      Reports { range := some range, text := new } (before ++ old ++ after) (before ++ new ++ after)
  | whole (text new : String) : Reports { range := none, text := new } text new

def ReportedBy : List ContentChange → String → String → Prop
  | [], text, after => after = text
  | change :: rest, text, after =>
    ∃ between, change.Reports text between ∧ ReportedBy rest between after

def EditorRun : String → List (ChangeGroup × String) → Prop
  | _, [] => True
  | text, (group, after) :: rest => ReportedBy group.changes text after ∧ EditorRun after rest

namespace Document

theorem offset_append {position : Position} {before after : List Char}
    (apart : Apart before after) (ends : position.Ends before) :
    offset (before ++ after) position = before.length := by
  rw [offset_eq_place, ends.1, ends.2]
  exact place_split_append before after apart

theorem splice_append {range : Range} {before old after inserted : List Char}
    (startApart : Apart before (old ++ after)) (stopApart : Apart (before ++ old) after)
    (starts : range.start.Ends before) (stops : range.stop.Ends (before ++ old)) :
    splice (before ++ old ++ after) range inserted = before ++ inserted ++ after := by
  have start : offset (before ++ old ++ after) range.start = before.length := by
    rw [List.append_assoc]
    exact offset_append startApart starts
  have stop : offset (before ++ old ++ after) range.stop = (before ++ old).length :=
    offset_append stopApart stops
  have within : before.length ≤ (before ++ old).length := by simp
  simp only [splice, start, stop, Nat.max_eq_right within]
  rw [List.drop_left, List.append_assoc before old, List.take_left]

theorem applyChange_reported {change : ContentChange} {text after : String}
    (reports : change.Reports text after) : applyChange text change = after := by
  cases reports with
  | replaced before old rest new range startApart stopApart starts stops =>
    rw [String.toList_append] at startApart stopApart stops
    have spliced : splice (before.toList ++ old.toList ++ rest.toList) range new.toList = _ :=
      splice_append startApart stopApart starts stops
    apply String.toList_injective
    simpa [applyChange] using spliced
  | whole => rfl

theorem applyChanges_reported {changes : List ContentChange} {text after : String}
    (reported : ReportedBy changes text after) : applyChanges text changes = after := by
  induction changes generalizing text with
  | nil => exact reported.symm
  | cons change rest ih =>
    obtain ⟨between, reports, others⟩ := reported
    show applyChanges (applyChange text change) rest = after
    rw [applyChange_reported reports]
    exact ih others

theorem foldl_follow_reported {run : List (ChangeGroup × String)} {document : Document}
    (written : EditorRun document.text run) (k : Nat) (inside : k < run.length) :
    ((run.take (k + 1)).map Prod.fst).foldl follow document =
      { document with text := run[k].2, version := run[k].1.version } := by
  induction run generalizing document k with
  | nil => simp at inside
  | cons entry rest ih =>
    obtain ⟨group, after⟩ := entry
    obtain ⟨reported, others⟩ := written
    have first : document.follow group =
        { document with text := after, version := group.version } := by
      simp only [follow, applyChanges_reported reported]
    cases k with
    | zero => simp [first]
    | succ k =>
      have written : EditorRun (document.follow group).text rest := by
        rw [first]
        exact others
      simpa [first] using ih written k (by simpa using inside)

end Document

theorem store_mirrors_editor (store : DocumentStore) (uri : Uri) (document : Document)
    (isOpen : store.find? uri = some document) (run : List (ChangeGroup × String))
    (written : EditorRun document.text run) (k : Nat) (inside : k < run.length) :
    ∃ followed, store.follow uri ((run.take (k + 1)).map Prod.fst) = some followed ∧
      followed.find? uri =
        some { document with text := run[k].2, version := run[k].1.version } ∧
      ∀ other, other ≠ uri → followed.find? other = store.find? other := by
  obtain ⟨followed, applied, found, others⟩ := DocumentStore.find?_follow isOpen
    ((run.take (k + 1)).map Prod.fst)
  rw [Document.foldl_follow_reported written k inside] at found
  exact ⟨followed, applied, found, others⟩

theorem store_mirrors_surrogate_pair :
    let document : Document :=
      { uri := ⟨"file:///a.py"⟩, path := none, languageId := "python", version := 1
        text := "a\r" ++ "😀" ++ "b" }
    let run : List (ChangeGroup × String) :=
      [({ version := 2
          changes := [{ range := some { start := ⟨1, 0⟩, stop := ⟨1, 2⟩ }, text := "x\n" }] },
        "a\r" ++ "x\n" ++ "b")]
    let store := { DocumentStore.empty with
      documents := Table.insert .empty document.uri document }
    EditorRun document.text run ∧
      ∃ followed, store.follow document.uri (run.map Prod.fst) = some followed ∧
        followed.find? document.uri = some { document with text := "a\rx\nb", version := 2 } := by
  intro document run store
  have written : EditorRun document.text run := by
    refine ⟨⟨_, .replaced "a\r" "😀" "b" "x\n" _ ?_ ?_ ?_ ?_, rfl⟩, trivial⟩
    · decide
    · decide
    · exact ⟨rfl, rfl⟩
    · exact ⟨rfl, rfl⟩
  have isOpen : store.find? document.uri = some document := by decide
  obtain ⟨followed, applied, found, -⟩ :=
    store_mirrors_editor store document.uri document isOpen run written 0 (by decide)
  exact ⟨written, followed, applied, found⟩

end PythonAssist
