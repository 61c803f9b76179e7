import Mathlib
import PythonAssist.Proofs.Document.LineAt
import PythonAssist.Proofs.Document.Mirror
import PythonAssist.Proofs.Session.Handles
import PythonAssist.Proofs.Wire.Header

set_option autoImplicit false

namespace PythonAssist

open Lines

theorem Utf8.encode_append (first second : String) :
    encode (first ++ second) = encode first ++ encode second := by
  simp [encode_eq]

def Position.NotBehind (first second : Position) : Prop :=
  first.line < second.line ∨ first.line = second.line ∧ first.character ≤ second.character

namespace Document

-- Characters are passed as long as they begin before the column. `units` and `index` count what
-- has been passed in UTF-16 units and in bytes.
def columnByte (column units index : Nat) : List Char → Nat
  | [] => index
  | c :: rest =>
    if column ≤ units then index
    else columnByte column (units + Units.width c) (index + c.utf8Size) rest

def byteOffset (text : String) (position : Position) : Nat :=
  let lines := splitLines text
  match lines[position.line.toNat]? with
  | none => text.utf8ByteSize
  | some line =>
    ((lines.take position.line.toNat).map String.utf8ByteSize).sum +
      columnByte position.character.toNat 0 0 (lineContent line).toList

-- The bytes between two ends give way to others. That is impossible when an end stands inside of a
-- character or behind the text, or when the ends are the wrong way round.
def replaceBytes? (text : String) (start stop : Nat) (inserted : String) : Option String :=
  if start ≤ stop ∧ (⟨start⟩ : String.Pos.Raw).IsValid text ∧
      (⟨stop⟩ : String.Pos.Raw).IsValid text then
    Utf8.decode? ((Utf8.encode text).take start ++ Utf8.encode inserted ++
      (Utf8.encode text).drop stop)
  else none

def applyChange? (text : String) (change : ContentChange) : Option String :=
  match change.range with
  | none => some change.text
  | some range =>
    let start := byteOffset text range.start
    replaceBytes? text start (max start (byteOffset text range.stop)) change.text

theorem columnByte_eq (column units index : Nat) (text : List Char) :
    columnByte column units index text =
      index + String.utf8Len (Units.take (column - units) text) := by
  induction text generalizing units index with
  | nil => cases column - units <;> rfl
  | cons c rest ih =>
    unfold columnByte
    split
    next reached =>
      rw [Nat.sub_eq_zero_of_le reached]
      rfl
    next behind =>
      obtain ⟨left, remains⟩ := Nat.exists_eq_succ_of_ne_zero (Nat.sub_ne_zero_of_lt (Nat.lt_of_not_le behind))
      have next : column - (units + Units.width c) = left + 1 - Units.width c := by omega
      rw [ih, next, remains, Units.take, String.utf8Len_cons]
      omega

theorem sum_sizes (lines : List (List Char)) :
    ((lines.map String.ofList).map String.utf8ByteSize).sum = String.utf8Len lines.flatten := by
  induction lines with
  | nil => rfl
  | cons line rest ih =>
    simp only [List.map_cons, List.sum_cons, ih, List.flatten_cons, String.utf8Len_append,
      String.utf8ByteSize_ofList]

theorem utf8Len_toList (text : String) : String.utf8Len text.toList = text.utf8ByteSize := by
  rw [← String.utf8ByteSize_ofList, String.ofList_toList]

theorem byteOffset_eq (text : String) (position : Position) :
    byteOffset text position = String.utf8Len
      (front (split text.toList) position.line.toNat position.character.toNat) := by
  unfold byteOffset
  simp only [splitLines, List.getElem?_map, ← List.map_take, sum_sizes]
  cases found : (split text.toList)[position.line.toNat]? with
  | none =>
    rw [front_past (List.getElem?_eq_none_iff.mp found), utf8Len_toList]
    rfl
  | some line =>
    simp only [Option.map_some, front, found, lineContent, String.toList_ofList, columnByte_eq,
      String.utf8Len_append, Nat.zero_add, Nat.sub_zero]

theorem offset_eq_front (text : List Char) (position : Position) :
    offset text position =
      (front (split text) position.line.toNat position.character.toNat).length := by
  rw [offset_eq_place, length_front]

theorem front_notBehind {first second : Position} (ordered : first.NotBehind second)
    (lines : List (List Char)) :
    front lines first.line.toNat first.character.toNat <+:
      front lines second.line.toNat second.character.toNat := by
  apply front_mono
  rcases ordered with before | ⟨same, columns⟩
  next => exact .inl (UInt32.lt_iff_toNat_lt.mp before)
  next => exact .inr ⟨by rw [same], UInt32.le_iff_toNat_le.mp columns⟩

structure Clamped (text : String) (position : Position) (byte : Nat) : Prop where
  counted : byte = String.utf8Len (text.toList.take (offset text.toList position))
  boundary : (⟨byte⟩ : String.Pos.Raw).IsValid text
  inside : byte ≤ text.utf8ByteSize
  inLine : ∃ before content ending after,
    LineAt text.toList (min position.line.toNat (terminators text.toList))
      before content ending after ∧
    String.utf8Len before ≤ byte ∧ byte ≤ String.utf8Len (before ++ content)
  pastLines : terminators text.toList < position.line.toNat → byte = text.utf8ByteSize
  column : ∀ before content ending after,
    LineAt text.toList position.line.toNat before content ending after →
    (∀ front back, content = front ++ back →
      position.character.toNat = Units.count front → byte = String.utf8Len (before ++ front)) ∧
    (∀ front c back, content = front ++ c :: back → 0x10000 ≤ c.toNat →
      position.character.toNat = Units.count front + 1 →
        byte = String.utf8Len (before ++ front ++ [c])) ∧
    (Units.count content ≤ position.character.toNat → byte = String.utf8Len (before ++ content))

theorem isValid_of_front {text : String} {front : List Char} (inside : front <+: text.toList) :
    (⟨String.utf8Len front⟩ : String.Pos.Raw).IsValid text := by
  obtain ⟨rest, whole⟩ := inside
  refine String.Pos.Raw.isValid_iff_exists_append.mpr
    ⟨String.ofList front, String.ofList rest, ?_, ?_⟩
  · rw [← String.ofList_append, whole, String.ofList_toList]
  · rw [← String.utf8ByteSize_ofList]
    rfl

theorem byteOffset_lineAt {text : String} {position : Position}
    {before content ending after : List Char}
    (line : LineAt text.toList position.line.toNat before content ending after) :
    byteOffset text position =
      String.utf8Len (before ++ Units.take position.character.toNat content) := by
  rw [byteOffset_eq, front_lineAt line]

theorem byteOffset_past {text : String} {position : Position}
    (past : terminators text.toList < position.line.toNat) :
    byteOffset text position = text.utf8ByteSize := by
  rw [byteOffset_eq, front_past (by rw [length_split]; exact past), utf8Len_toList]

theorem byteOffset_inLine (text : String) (position : Position) :
    ∃ before content ending after,
      LineAt text.toList (min position.line.toNat (terminators text.toList))
        before content ending after ∧
      String.utf8Len before ≤ byteOffset text position ∧
        byteOffset text position ≤ String.utf8Len (before ++ content) := by
  have exists_line : min position.line.toNat (terminators text.toList) <
      (split text.toList).length := by
    rw [length_split]
    omega
  obtain ⟨before, content, ending, after, line⟩ := exists_lineAt exists_line
  refine ⟨before, content, ending, after, line, ?_⟩
  by_cases past : terminators text.toList < position.line.toNat
  next =>
    -- The last line has no terminator, so the text ends with its content.
    rw [Nat.min_eq_right (Nat.le_of_lt past)] at line
    have last : text.utf8ByteSize = String.utf8Len (before ++ content) := by
      obtain ⟨rfl, rfl⟩ := line.last
      rw [← utf8Len_toList, line.joined, List.append_nil, List.append_nil]
    rw [byteOffset_past past, last, String.utf8Len_append]
    exact ⟨Nat.le_add_right _ _, Nat.le_refl _⟩
  next =>
    rw [Nat.min_eq_left (Nat.le_of_not_lt past)] at line
    rw [byteOffset_lineAt line]
    constructor
    · exact String.utf8Len_le_of_prefix (List.prefix_append _ _)
    · exact String.utf8Len_le_of_prefix
        (List.prefix_append_right_inj _ |>.mpr (Units.isPrefix_take _ content))

theorem byteOffset_clamped (text : String) (position : Position) :
    Clamped text position (byteOffset text position) where
  counted := by
    rw [byteOffset_eq, offset_eq_front, ← List.prefix_iff_eq_take.mp (isPrefix_front _ _ _)]
  boundary := by
    rw [byteOffset_eq]
    exact isValid_of_front (isPrefix_front _ _ _)
  inside := by
    rw [byteOffset_eq, ← utf8Len_toList]
    exact String.utf8Len_le_of_prefix (isPrefix_front _ _ _)
  inLine := byteOffset_inLine text position
  pastLines := byteOffset_past
  column before content ending after line := by
    rw [byteOffset_lineAt line]
    refine ⟨?_, ?_, ?_⟩
    · rintro front back rfl column
      rw [column, Units.take_count]
    · rintro front c back rfl high column
      have wide : Units.width c = 2 := if_neg (Nat.not_lt.mpr high)
      rw [Units.take_within (by omega) (by omega), List.append_assoc]
    · intro past
      rw [Units.take_past past]

theorem byteOffset_mono (text : String) {first second : Position}
    (ordered : first.NotBehind second) : byteOffset text first ≤ byteOffset text second := by
  rw [byteOffset_eq, byteOffset_eq]
  exact String.utf8Len_le_of_prefix (front_notBehind ordered _)

def Replaced (text : String) (start stop : Nat) (inserted after : String) : Prop :=
  ∃ before old behind, text = before ++ old ++ behind ∧ before.utf8ByteSize = start ∧
    (before ++ old).utf8ByteSize = stop ∧ after = before ++ inserted ++ behind

theorem replaceBytes?_eq {text inserted after : String} {start stop : Nat}
    (replaced : Replaced text start stop inserted after) :
    replaceBytes? text start stop inserted = some after := by
  obtain ⟨before, old, behind, rfl, rfl, rfl, rfl⟩ := replaced
  have starts : (⟨before.utf8ByteSize⟩ : String.Pos.Raw).IsValid (before ++ old ++ behind) :=
    String.Pos.Raw.isValid_iff_exists_append.mpr ⟨before, old ++ behind, String.append_assoc, rfl⟩
  have stops : (⟨(before ++ old).utf8ByteSize⟩ : String.Pos.Raw).IsValid
      (before ++ old ++ behind) :=
    String.Pos.Raw.isValid_iff_exists_append.mpr ⟨before ++ old, behind, rfl, rfl⟩
  have ordered : before.utf8ByteSize ≤ (before ++ old).utf8ByteSize := by
    rw [String.utf8ByteSize_append]
    exact Nat.le_add_right _ _
  rw [replaceBytes?, if_pos ⟨ordered, starts, stops⟩]
  rw [Utf8.encode_append (before ++ old), ← Utf8.length_encode (before ++ old), List.drop_left,
    Utf8.encode_append before, ← Utf8.length_encode before, List.append_assoc (Utf8.encode before),
    List.take_left, ← Utf8.encode_append, ← Utf8.encode_append, Utf8.decode?_encode]

theorem front_max (text : String) (range : Range) :
    ∃ stop : List Char, stop <+: text.toList ∧
      front (split text.toList) range.start.line.toNat range.start.character.toNat <+: stop ∧
      stop.length = max (offset text.toList range.start) (offset text.toList range.stop) ∧
      String.utf8Len stop = max (byteOffset text range.start) (byteOffset text range.stop) := by
  have first := isPrefix_front text.toList range.start.line.toNat range.start.character.toNat
  have second := isPrefix_front text.toList range.stop.line.toNat range.stop.character.toNat
  rw [offset_eq_front, offset_eq_front, byteOffset_eq, byteOffset_eq]
  rcases Nat.le_total
    (front (split text.toList) range.start.line.toNat range.start.character.toNat).length
    (front (split text.toList) range.stop.line.toNat range.stop.character.toNat).length
    with ordered | inverted
  next =>
    have within := List.prefix_of_prefix_length_le first second ordered
    exact ⟨_, second, within, (Nat.max_eq_right ordered).symm,
      (Nat.max_eq_right ( String.utf8Len_le_of_prefix within)).symm⟩
  next =>
    have within := List.prefix_of_prefix_length_le second first inverted
    exact ⟨_, first, List.prefix_rfl, (Nat.max_eq_left inverted).symm,
      (Nat.max_eq_left ( String.utf8Len_le_of_prefix within)).symm⟩

theorem applyChange_replaced (text : String) (range : Range) (inserted : String) :
    Replaced text (byteOffset text range.start)
      (max (byteOffset text range.start) (byteOffset text range.stop)) inserted
      (applyChange text { range := some range, text := inserted }) := by
  obtain ⟨stop, ⟨behind, whole⟩, ⟨old, rfl⟩, length, size⟩ := front_max text range
  generalize starts : front (split text.toList) range.start.line.toNat
    range.start.character.toNat = before at whole length size
  have spliced : splice text.toList range inserted.toList = before ++ inserted.toList ++ behind := by
    rw [splice, ← length, offset_eq_front, starts, ← whole, List.drop_left,
      List.append_assoc before old, List.take_left]
  refine ⟨String.ofList before, String.ofList old, String.ofList behind, ?_, ?_, ?_, ?_⟩
  · rw [← String.ofList_append, ← String.ofList_append, whole, String.ofList_toList]
  · rw [byteOffset_eq, starts, String.utf8ByteSize_ofList]
  · rw [← String.ofList_append, String.utf8ByteSize_ofList, size]
  · simp only [applyChange, spliced, String.ofList_append, String.ofList_toList]

theorem applyChange?_eq (text : String) (change : ContentChange) :
    applyChange? text change = some (applyChange text change) := by
  obtain ⟨range, inserted⟩ := change
  cases range with
  | none => rfl
  | some range => exact replaceBytes?_eq (applyChange_replaced text range inserted)

theorem applyChanges?_eq (text : String) (changes : List ContentChange) :
    changes.foldlM applyChange? text = some (applyChanges text changes) := by
  induction changes generalizing text with
  | nil => rfl
  | cons change rest ih =>
    rw [List.foldlM_cons, applyChange?_eq]
    exact ih (applyChange text change)

end Document

theorem Session.didChange_closed {W : Type} (surroundings : Surroundings W) {session : Session W}
    {uri : Uri} (closed : session.documents.find? uri = none) (version : Int)
    (changes : List ContentChange) :
    (receive surroundings (.didChange uri version changes)).run session =
      (.error (.handle (.notOpen uri)), session) := by
  have refused : session.documents.change uri version changes = none := by
    rw [DocumentStore.change, closed]
  unfold receive didChange
  show (storeDocuments uri (session.documents.change uri version changes) >>= _).run session = _
  rw [refused]
  rfl

-- No position, whatever its line and column, leads outside of a text or between the bytes of a
-- character, so every change of an open document is possible.
theorem ranged_edits_are_total_and_clamped :
    (∀ text position, Document.Clamped text position (Document.byteOffset text position)) ∧
    (∀ text first second, Position.NotBehind first second →
      Document.byteOffset text first ≤ Document.byteOffset text second) ∧
    (∀ text range inserted, Document.Replaced text (Document.byteOffset text range.start)
      (max (Document.byteOffset text range.start) (Document.byteOffset text range.stop)) inserted
      (Document.applyChange text { range := some range, text := inserted })) ∧
    (∀ text changes,
      List.foldlM Document.applyChange? text changes =
        some (Document.applyChanges text changes)) ∧
    (∀ (store : DocumentStore) uri version changes,
      match store.find? uri with
      | some document => ∃ changed, store.change uri version changes = some changed ∧
          changed.find? uri = some { document with
            text := Document.applyChanges document.text changes, version } ∧
          ∀ other, other ≠ uri → changed.find? other = store.find? other
      | none => store.change uri version changes = none) ∧
    ∀ (W : Type) (surroundings : Surroundings W) session uri version changes,
      session.documents.find? uri = none →
        (Session.receive surroundings (.didChange uri version changes)).run session =
          (.error (.handle (.notOpen uri)), session) := by
  refine ⟨Document.byteOffset_clamped, fun text first second => Document.byteOffset_mono text,
    Document.applyChange_replaced, fun text changes => Document.applyChanges?_eq text changes, ?_,
    fun W surroundings session uri version changes closed =>
      Session.didChange_closed surroundings closed version changes⟩
  intro store uri version changes
  cases found : store.find? uri with
  | some document => exact DocumentStore.find?_change found { version, changes }
  | none => simp only [DocumentStore.change, found]

open CannedEngine in
theorem ranged_edit_inside_surrogate_pair :
    let text := "a\r\n😀b"
    let session := Session.create "python3" .default silent
    LineAt text.toList 1 "a\r\n".toList "😀b".toList [] [] ∧
      Document.byteOffset text ⟨1, 1⟩ = 7 ∧
      Position.NotBehind ⟨0, 9⟩ ⟨1, 1⟩ ∧
      Document.byteOffset text ⟨0, 9⟩ ≤ Document.byteOffset text ⟨1, 1⟩ ∧
      session.documents.find? newDocument.uri = none ∧
      (Session.receive { launcher, host := .bare } (.didChange newDocument.uri 2 [])).run session =
        (.error (.handle (.notOpen newDocument.uri)), session) := by
  intro text session
  obtain ⟨clamped, ordered, -, -, -, refused⟩ := ranged_edits_are_total_and_clamped
  have line : LineAt text.toList 1 "a\r\n".toList "😀b".toList [] [] :=
    ⟨by decide, by decide, by decide, by decide, (plain_iff_all _).mpr (by decide),
      .inr ⟨rfl, rfl⟩⟩
  have rounded := ((clamped text ⟨1, 1⟩).column _ _ _ _ line).2.1 [] '😀' ['b'] (by decide)
    (by decide) rfl
  have earlier : Position.NotBehind ⟨0, 9⟩ ⟨1, 1⟩ := .inl (by decide)
  exact ⟨line, rounded, earlier, ordered text _ _ earlier, rfl,
    refused _ _ session newDocument.uri 2 [] rfl⟩

end PythonAssist
