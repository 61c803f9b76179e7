import Mathlib.Data.List.TakeWhile
import PythonAssist.Proofs.Document.Clamping
import PythonAssist.Proofs.Edit.TextEdits
import PythonAssist.Proofs.Session.Handles
import PythonAssist.Proofs.Text.Splitting

set_option autoImplicit false

namespace PythonAssist

open Lines

namespace Units

theorem count_append (front back : List Char) :
    count (front ++ back) = count front + count back := by
  induction front with
  | nil => rw [List.nil_append, count, Nat.zero_add]
  | cons c rest ih => rw [List.cons_append, count, count, ih, Nat.add_assoc]

theorem take_count_add (front back : List Char) (more : Nat) :
    take (count front + more) (front ++ back) = front ++ take more back := by
  induction front with
  | nil => rw [count, Nat.zero_add, List.nil_append, List.nil_append]
  | cons c rest ih => rw [List.cons_append, count, Nat.add_assoc, take_cons, ih]; rfl

theorem drop_count (front back : List Char) : drop (count front) (front ++ back) = back := by
  have whole := take_append_drop (count front) (front ++ back)
  rw [take_count] at whole
  exact List.append_cancel_left whole

theorem take_append_of_le {word : List Char} {column : Nat} (inside : column ≤ count word)
    (rest : List Char) : take column (word ++ rest) = take column word := by
  induction word generalizing column with
  | nil =>
    obtain rfl : column = 0 := Nat.le_zero.mp inside
    rw [take, take]
  | cons c word ih =>
    cases column with
    | zero => rfl
    | succ column =>
      rw [count] at inside
      rw [List.cons_append, take, take, ih (by omega)]

end Units

structure LeadingWord (text word rest : List Char) : Prop where
  joined : text = word ++ rest
  all : ∀ c ∈ word, isWordCharacter c = true
  longest : ∀ c, rest.head? = some c → isWordCharacter c = false

namespace LeadingWord

theorem takeWhile_eq {text word rest : List Char} (run : LeadingWord text word rest) :
    text.takeWhile isWordCharacter = word := by
  rw [run.joined, takeWhile_append_eq run.all run.longest]

theorem of_takeWhile (text : List Char) :
    LeadingWord text (text.takeWhile isWordCharacter) (text.dropWhile isWordCharacter) where
  joined := List.takeWhile_append_dropWhile.symm
  all _ := List.mem_takeWhile_imp
  longest c first := by
    simpa [first] using List.head?_dropWhile_not isWordCharacter text

end LeadingWord

theorem isWordCharacter_terminator {c : Char} (terminator : isTerminator c = true) :
    isWordCharacter c = false := by
  rcases (by simpa [isTerminator] using terminator : c = '\n' ∨ c = '\r') with rfl | rfl
  · decide
  · decide

theorem Lines.Ending.isWordCharacter_head {ending : List Char} (ends : Ending ending) :
    ∃ c others, ending = c :: others ∧ isWordCharacter c = false := by
  cases ends with
  | newline => exact ⟨_, _, rfl, isWordCharacter_terminator rfl⟩
  | both => exact ⟨_, _, rfl, isWordCharacter_terminator rfl⟩
  | lone => exact ⟨_, _, rfl, isWordCharacter_terminator rfl⟩

-- A line break ends a word, so the rest of the line is enough to find its end.
theorem LeadingWord.inLine {back ending after word rest : List Char}
    (run : LeadingWord (back ++ ending ++ after) word rest)
    (ends : Ending ending ∧ Lines.Apart ending after ∨ ending = [] ∧ after = []) :
    ∃ tail, back = word ++ tail ∧ rest = tail ++ ending ++ after ∧
      LeadingWord (back ++ ending) word (tail ++ ending) := by
  have inside : ∃ tail, back = word ++ tail ∧ rest = tail ++ ending ++ after := by
    have joined := run.joined
    rw [List.append_assoc, List.append_eq_append_iff] at joined
    rcases joined with ⟨beyond, rfl, crossed⟩ | ⟨tail, rfl, rfl⟩
    · cases beyond with
      | nil => exact ⟨[], by simp, by simpa using crossed.symm⟩
      | cons c beyond =>
        have inWord := run.all c (by simp)
        rcases ends with ⟨ends, -⟩ | ⟨rfl, rfl⟩
        · obtain ⟨first, others, rfl, noWord⟩ := ends.isWordCharacter_head
          rw [(List.cons.inj crossed).1, inWord] at noWord
          cases noWord
        · cases crossed
    · exact ⟨tail, rfl, by rw [List.append_assoc]⟩
  obtain ⟨tail, rfl, rfl⟩ := inside
  refine ⟨tail, rfl, rfl, by rw [List.append_assoc], run.all, fun c first => run.longest c ?_⟩
  rw [List.head?_append, first]
  rfl

theorem addColumns_toNat (column : UInt32) (width : Nat) :
    ∃ more ≤ width, (addColumns column width).toNat = column.toNat + more ∧
      (column.toNat + width ≤ positionLimit → more = width) := by
  have held : column.toNat ≤ positionLimit := Nat.le_of_lt_succ column.toNat_lt
  rw [addColumns, toNat_clampToPosition]
  split
  next => exact ⟨min width (positionLimit - column.toNat), by omega, by omega, by omega⟩
  next => exact ⟨0, by omega, by omega, by omega⟩

namespace Document

theorem applyChange_between {text : String} {range : Range} {before old behind : List Char}
    (whole : text.toList = before ++ old ++ behind)
    (starts : front (split text.toList) range.start.line.toNat range.start.character.toNat =
      before)
    (stops : front (split text.toList) range.stop.line.toNat range.stop.character.toNat =
      before ++ old) (inserted : String) :
    applyChange text { range := some range, text := inserted } =
      String.ofList (before ++ inserted.toList ++ behind) := by
  have ordered : max before.length (before ++ old).length = (before ++ old).length :=
    Nat.max_eq_right (by simp)
  show String.ofList (splice text.toList range inserted.toList) = _
  rw [splice, offset_eq_front, offset_eq_front, starts, stops, ordered, whole, List.drop_left,
    List.append_assoc before old, List.take_left]

end Document

namespace CompletionItem

theorem replaceRange_word {front back ending word rest : List Char} {position : Position}
    (column : position.character.toNat = Units.count front)
    (run : LeadingWord (back ++ ending) word rest) :
    replaceRange (String.ofList (front ++ back ++ ending)) position =
      { start := position
        stop := { position with
          character := addColumns position.character (Units.count word) } } := by
  rw [replaceRange, String.toList_ofList, column, List.append_assoc, Units.drop_count,
    run.takeWhile_eq]

structure Covers (range : Range) (text before front removed left : List Char) : Prop where
  whole : Units.count (front ++ (removed ++ left)) ≤ positionLimit → left = []
  start : Document.front (split text) range.start.line.toNat range.start.character.toNat =
    before ++ front
  stop : Document.front (split text) range.stop.line.toNat range.stop.character.toNat =
    before ++ front ++ removed

theorem replaceRange_covers {text before front back ending after word rest : List Char}
    {position : Position}
    (line : LineAt text position.line.toNat before (front ++ back) ending after)
    (column : position.character.toNat = Units.count front)
    (run : LeadingWord (back ++ ending ++ after) word rest) :
    ∃ removed left, word = removed ++ left ∧
      Covers (replaceRange (String.ofList (front ++ back ++ ending)) position) text before front
        removed left := by
  obtain ⟨tail, rfl, -, inLine⟩ := run.inLine line.ends
  obtain ⟨more, inside, counted, reaches⟩ :=
    addColumns_toNat position.character (Units.count word)
  rw [replaceRange_word column inLine]
  have cut := Units.take_append_drop more word
  refine ⟨Units.take more word, Units.drop more word, cut.symm, fun fits => ?_, ?_, ?_⟩
  · rw [cut, Units.count_append, ← column] at fits
    rw [Units.take_past (reaches fits).ge] at cut
    exact List.append_right_eq_self.mp cut
  · rw [Document.front_lineAt line, column, Units.take_count]
  · rw [Document.front_lineAt line, counted, column, Units.take_count_add,
      Units.take_append_of_le inside, List.append_assoc]

theorem plain_mem {style : CompletionStyle} {completions : List Completion} {completion : Completion}
    (member : completion ∈ completions) (range : Range) :
    ∃ item ∈ ofCompletions style completions range,
      item.insertion = .edit { range, newText := completion.complete } := by
  refine ⟨base completion range, List.mem_flatMap.mpr ⟨completion, member, ?_⟩, rfl⟩
  cases style <;> exact List.mem_cons_self

theorem edit_of_mem {style : CompletionStyle} {completions : List Completion} {range : Range}
    {item : CompletionItem} (member : item ∈ ofCompletions style completions range)
    {edit : TextEdit} (plain : item.insertion = .edit edit) :
    ∃ completion ∈ completions, edit = { range, newText := completion.complete } := by
  obtain ⟨completion, known, member⟩ := List.mem_flatMap.mp member
  refine ⟨completion, known, ?_⟩
  cases style with
  | plain =>
    obtain rfl := List.mem_singleton.mp member
    exact (Insertion.edit.inj plain).symm
  | snippets =>
    rcases List.mem_cons.mp member with rfl | inSnippets
    · exact (Insertion.edit.inj plain).symm
    · obtain ⟨signature, -, rfl⟩ := List.mem_map.mp inSnippets
      cases plain

end CompletionItem

theorem DocumentHandle.Mirrors.line?_eq {uri : Uri} {document : Document} {handle : DocumentHandle}
    (mirrors : handle.Mirrors uri document) {number : UInt32}
    {before content ending after : List Char}
    (line : LineAt document.text.toList number.toNat before content ending after) :
    handle.line? number = some (String.ofList (content ++ ending)) := by
  obtain ⟨lines, listed, -, others, cut⟩ := line.split_eq
  rw [line?, mirrors.lines, splitLines, cut, ← listed]
  simp

structure Completes (uri : Uri) (document : Document) (range : Range)
    (before front removed left rest : List Char) : Prop where
  whole : Units.count (front ++ (removed ++ left)) ≤ positionLimit → left = []
  start : Document.byteOffset document.text range.start = String.utf8Len (before ++ front)
  stop : Document.byteOffset document.text range.stop =
    String.utf8Len (before ++ front ++ removed)
  changed : ∀ (inserted : String) (store : DocumentStore) version,
    store.find? uri = some document →
      ∃ changed, store.change uri version [{ range := some range, text := inserted }] =
          some changed ∧
        changed.find? uri = some { document with
          version
          text := String.ofList (before ++ front ++ inserted.toList ++ left ++ rest) }
  offered : ∀ style (completions : List Completion), ∀ completion ∈ completions,
    ∃ item ∈ CompletionItem.ofCompletions style completions range,
      item.insertion = .edit { range, newText := completion.complete }
  chosen : ∀ style completions, ∀ item ∈ CompletionItem.ofCompletions style completions range,
    ∀ edit, item.insertion = .edit edit →
    ∀ (store : DocumentStore) version, store.find? uri = some document →
      ∃ changed, store.change uri version [edit.change] = some changed ∧
        changed.find? uri = some { document with
          version
          text := String.ofList (before ++ front ++ edit.newText.toList ++ left ++ rest) }

theorem CompletionItem.Covers.change_eq {range : Range} {document : Document}
    {before front removed left rest : List Char}
    (covers : Covers range document.text.toList before front removed left)
    (joined : document.text.toList = before ++ front ++ removed ++ (left ++ rest)) {uri : Uri}
    {store : DocumentStore} (isOpen : store.find? uri = some document) (inserted : String)
    (version : Int) :
    ∃ changed, store.change uri version [{ range := some range, text := inserted }] =
        some changed ∧
      changed.find? uri = some { document with
        version
        text := String.ofList (before ++ front ++ inserted.toList ++ left ++ rest) } := by
  obtain ⟨changed, applied, found, -⟩ :=
    DocumentStore.find?_change isOpen ⟨version, [{ range := some range, text := inserted }]⟩
  have replaced := Document.applyChange_between joined covers.start covers.stop inserted
  refine ⟨changed, applied, found.trans ?_⟩
  simp only [Document.follow, Document.applyChanges, List.foldl_cons, List.foldl_nil, replaced,
    List.append_assoc]

theorem CompletionItem.Covers.completes {range : Range} {document : Document}
    {before front removed left : List Char}
    (covers : Covers range document.text.toList before front removed left) (uri : Uri)
    {rest : List Char}
    (joined : document.text.toList = before ++ front ++ removed ++ (left ++ rest)) :
    Completes uri document range before front removed left rest where
  whole := covers.whole
  start := by rw [Document.byteOffset_eq, covers.start]
  stop := by rw [Document.byteOffset_eq, covers.stop]
  changed inserted _ version isOpen := covers.change_eq joined isOpen inserted version
  offered _ _ _ member := plain_mem member range
  chosen := by
    intro style completions item member edit plain store version isOpen
    obtain ⟨completion, -, rfl⟩ := edit_of_mem member plain
    exact covers.change_eq joined isOpen completion.complete version

theorem replaceRange_completes {uri : Uri} {document : Document} {handle : DocumentHandle}
    (mirrors : handle.Mirrors uri document) {position : Position}
    {before front back ending after word rest : List Char}
    (line : LineAt document.text.toList position.line.toNat before (front ++ back) ending after)
    (column : position.character.toNat = Units.count front)
    (run : LeadingWord (back ++ ending ++ after) word rest) :
    ∃ removed left, word = removed ++ left ∧
      Completes uri document
        (CompletionItem.replaceRange ((handle.line? position.line).getD "") position)
        before front removed left rest := by
  obtain ⟨removed, left, rfl, covers⟩ := CompletionItem.replaceRange_covers line column run
  rw [mirrors.line?_eq line, Option.getD_some]
  refine ⟨removed, left, rfl, covers.completes uri ?_⟩
  rw [line.joined, List.append_assoc front, List.append_assoc front, run.joined]
  simp only [List.append_assoc]

def AnswersFor (document : Document) (place : DocumentPlace) (answer : Json) : Prop :=
  ∃ (handle : DocumentHandle) (style : CompletionStyle) (completions : List Completion),
    handle.Mirrors place.uri document ∧
    answer = .object [("isIncomplete", .bool false),
      ("items", .list CompletionItem.toJson (CompletionItem.ofCompletions style completions
        (CompletionItem.replaceRange ((handle.line? place.position.line).getD "")
          place.position)))]

open Session in
theorem Session.completion_answers {W : Type} {engine : Engine W}
    {opened : W → ScriptId → String → Prop} (remembers : engine.Remembers opened)
    {session : Session W} (tracks : Tracks opened session) (place : DocumentPlace) :
    Ensures (completion engine place) session fun result after => ∀ answer, result = .ok answer →
      ∃ document, after.documents.find? place.uri = some document ∧
        AnswersFor document place answer := by
  apply ensures_get
  cases session.completionStyle with
  | none => exact ensures_fail (by simp)
  | some style =>
    apply (handleFor_ensures session).bind
    next => exact fun _ _ _ => by simp
    next =>
      rintro handle middle ⟨moves, cached⟩
      have tracked := moves.tracks remembers tracks
      obtain ⟨document, found, mirrors, -⟩ := tracked place.uri handle trivial (cached handle rfl)
      apply (ask_ensures _ middle).bind
      next => exact fun _ _ _ => by simp
      next =>
        rintro completions after ⟨-, rfl⟩
        apply ensures_pure
        rintro answer ⟨⟩
        exact ⟨document, found, handle, style, completions, mirrors, rfl⟩

theorem completion_replaces_rest_of_word :
    (∀ (uri : Uri) (document : Document) (handle : DocumentHandle) (position : Position)
      (before front back ending after : List Char), handle.Mirrors uri document →
      LineAt document.text.toList position.line.toNat before (front ++ back) ending after →
      position.character.toNat = Units.count front →
        ∃ removed left rest, LeadingWord (back ++ ending ++ after) (removed ++ left) rest ∧
          Completes uri document
            (CompletionItem.replaceRange ((handle.line? position.line).getD "") position)
            before front removed left rest) ∧
    ∀ (W : Type) (launcher : Launcher W) situation, Reachable launcher situation →
      ∀ place answer after,
        (Session.completion launcher.engine place).run situation.session = (.ok answer, after) →
        ∃ document, after.documents.find? place.uri = some document ∧
          AnswersFor document place answer := by
  constructor
  · intro uri document handle position before front back ending after mirrors line column
    have run := LeadingWord.of_takeWhile (back ++ ending ++ after)
    obtain ⟨removed, left, cut, completes⟩ := replaceRange_completes mirrors line column run
    exact ⟨removed, left, _, cut ▸ run, completes⟩
  · intro W launcher situation reachable place answer after answered
    have nothing := Session.remembers_nothing launcher.engine
    have tracks := (Session.reachable_tracks nothing reachable).2
    have ensured := Session.completion_answers nothing tracks place
    rw [Session.Ensures, answered] at ensured
    exact ensured answer rfl

open CannedEngine in
theorem completion_replaces_word_with_surrogate_pair :
    let item : DocumentItem := { newDocument with text := "s\r\n😀.naïv𝑒()\r\n" }
    let document := Document.ofItem item
    let handle := DocumentHandle.ofDocument document item.uri 0
    handle.Mirrors item.uri document ∧
      LineAt document.text.toList 1 "s\r\n".toList ("😀.".toList ++ "naïv𝑒()".toList)
        "\r\n".toList [] ∧
      3 = Units.count "😀.".toList ∧
      (∃ changed, (DocumentStore.empty.openItem item).change item.uri 2
          [{ range := some ⟨⟨1, 3⟩, ⟨1, 9⟩⟩, text := "naïve" }] = some changed ∧
        changed.find? item.uri = some { document with
          version := 2, text := "s\r\n😀.naïve()\r\n" }) ∧
      Reachable launcher.recorded withDocument ∧
      ∃ answer after document,
        (Session.completion launcher.recorded.engine ⟨newDocument.uri, ⟨0, 0⟩⟩).run
          withDocument.session = (.ok answer, after) ∧
        after.documents.find? newDocument.uri = some document ∧
        AnswersFor document ⟨newDocument.uri, ⟨0, 0⟩⟩ answer := by
  intro item document handle
  have mirrors : handle.Mirrors item.uri document := DocumentHandle.ofDocument_mirrors _ _ _
  have line : LineAt document.text.toList 1 "s\r\n".toList ("😀.".toList ++ "naïv𝑒()".toList)
      "\r\n".toList [] :=
    ⟨by decide, by decide, by decide, by decide, (plain_iff_all _).mpr (by decide),
      .inl ⟨.both, by decide⟩⟩
  have column : 3 = Units.count "😀.".toList := by decide
  obtain ⟨completes, answers⟩ := completion_replaces_rest_of_word
  refine ⟨mirrors, line, column, ?_, withDocument_reachable, ?_⟩
  · obtain ⟨removed, left, rest, run, completed⟩ :=
      completes item.uri document handle ⟨1, 3⟩ _ _ _ _ _ mirrors line column
    have word : removed ++ left = "naïv𝑒".toList := run.takeWhile_eq.symm.trans (by decide +kernel)
    obtain rfl : left = [] := completed.whole (by rw [word]; decide)
    obtain rfl : removed = "naïv𝑒".toList := (List.append_nil removed).symm.trans word
    obtain rfl : rest = "()\r\n".toList := List.append_cancel_left (run.joined.symm.trans rfl)
    have ranged : CompletionItem.replaceRange ((handle.line? 1).getD "") ⟨1, 3⟩ =
        ⟨⟨1, 3⟩, ⟨1, 9⟩⟩ := by decide +kernel
    rw [ranged] at completed
    obtain ⟨changed, applied, shown⟩ :=
      completed.changed "naïve" (DocumentStore.empty.openItem item) 2 rfl
    have spelled : String.ofList ("s\r\n".toList ++ "😀.".toList ++ "naïve".toList ++ [] ++
        "()\r\n".toList) = "s\r\n😀.naïve()\r\n" := by decide +kernel
    rw [spelled] at shown
    exact ⟨changed, applied, shown⟩
  · rcases ran : (Session.completion launcher.recorded.engine ⟨newDocument.uri, ⟨0, 0⟩⟩).run
      withDocument.session with ⟨failed | answer, after⟩
    · have fine : ((Session.completion launcher.recorded.engine ⟨newDocument.uri, ⟨0, 0⟩⟩).run
        withDocument.session).1.isOk = true := by decide
      rw [ran] at fine
      cases fine
    · obtain ⟨document, found, shown⟩ := answers _ _ _ withDocument_reachable _ _ _ ran
      exact ⟨answer, after, document, rfl, found, shown⟩

end PythonAssist
