import PythonAssist.Proofs.TextEngine.SearchSlices
import PythonAssist.TextEngine.Serve

set_option autoImplicit false

namespace PythonAssist

namespace TextEngine

open String (utf8Len)

def Answer.ofSlices : Option Json → Answer
  | some value => .result value
  | none => .crash

theorem Answer.ofSlices_eq_crash_iff {value : Option Json} :
    Answer.ofSlices value = .crash ↔ value = none := by
  cases value <;> simp [Answer.ofSlices]

namespace Script

variable {script : Script} {line column : Nat}

section Completion

def completionItem (word : String) (rest : List Char) : Json :=
  .ofFields [("name", .string word), ("complete", text rest), ("type", .string "statement"),
    ("docstring", .string ""), ("signatures", .array [])]

def longerWords (script : Script) (front : List Char) : List String :=
  sortedWords ((words script.chars).filter fun word => front.isPrefixOf word && word != front)

def completeSlices? (script : Script) (line column : Nat) : Option Json :=
  match script.line? line with
  | none => some (.array [])
  | some found => do
    let front ← lastWordSlice? (before found column)
    let items ← (script.longerWords front).mapM fun word =>
      (Utf8.slice? word.toList (byteWidth front) (byteWidth word.toList)).map (completionItem word)
    return .array items

theorem prefix_of_longerWords {front : List Char} {word : String}
    (member : word ∈ script.longerWords front) : front <+: word.toList := by
  rw [longerWords, sortedWords, List.mem_mergeSort, List.mem_eraseDups, List.mem_map] at member
  obtain ⟨chars, longer, rfl⟩ := member
  rw [List.mem_filter, Bool.and_eq_true, List.isPrefixOf_iff_prefix] at longer
  rw [String.toList_ofList]
  exact longer.2.1

theorem mapM_eq_some_map {A B : Type} {f : A → Option B} {g : A → B} {items : List A}
    (taken : ∀ item ∈ items, f item = some (g item)) : items.mapM f = some (items.map g) := by
  induction items with
  | nil => rfl
  | cons item rest ih =>
    obtain ⟨first, others⟩ := List.forall_mem_cons.mp taken
    rw [List.mapM_cons, first, ih others]
    rfl

theorem completionItems (script : Script) (front : List Char) :
    ((script.longerWords front).mapM fun word =>
      (Utf8.slice? word.toList (byteWidth front) (byteWidth word.toList)).map
        (completionItem word)) =
      some ((script.longerWords front).map (completionToJson front.length)) := by
  apply mapM_eq_some_map
  intro word member
  obtain ⟨rest, whole⟩ := prefix_of_longerWords member
  have behind := slice?_back_of front rest
  rw [whole, ← byteWidth_eq] at behind
  rw [behind, Option.map_some, completionToJson, ← whole, List.drop_left]
  rfl

theorem complete_eq_slices (script : Script) (line column : Nat) :
    script.complete line column = .ofSlices (script.completeSlices? line column) := by
  rw [complete, completeSlices?]
  cases script.line? line with
  | none => rfl
  | some found =>
    simp only [lastWordSlice?_eq]
    cases lastWord (before found column) with
    | broken => rfl
    | word front =>
      simp only [Option.bind_eq_bind, Option.bind_some, completionItems]
      rfl

theorem completeSlices?_eq_none_iff : script.completeSlices? line column = none ↔
    ∃ found, script.line? line = some found ∧ BehindWide (before found column) := by
  rw [completeSlices?]
  cases script.line? line with
  | none => simp
  | some found =>
    simp only [← lastWordSlice?_eq_none_iff, completionItems, Option.some_inj, exists_eq_left']
    cases lastWordSlice? (before found column) <;> simp

end Completion

section Calls

def signatureItem (name inside : List Char) : Json :=
  .ofFields [("label", .string (String.ofList name ++ "(a, b)")),
    ("index", .nat (inside.count ',')),
    ("params", .array [paramToJson "a", paramToJson "b"])]

def signatureSlices? (script : Script) (line column : Nat) : Option Json :=
  match script.line? line with
  | none => some (.array [])
  | some found => do
    match ← callSlices? (before found column) with
    | none => return .array []
    | some (name, inside) =>
      return .array (if name.isEmpty then [] else [signatureItem name inside])

theorem signatures_eq_slices (script : Script) (line column : Nat) :
    script.signatures line column = .ofSlices (script.signatureSlices? line column) := by
  rw [signatures, signatureSlices?]
  cases script.line? line with
  | none => rfl
  | some found =>
    simp only [Option.bind_some, callSlices?_eq]
    cases splitCall (before found column) with
    | none => rfl
    | some call =>
      obtain ⟨front, inside⟩ := call
      simp only [lastWordSlice?_eq]
      cases lastWord front with
      | broken => rfl
      | word name =>
        have commas : ('(' :: inside).count ',' = inside.count ',' :=
          List.count_cons_of_ne (by decide)
        cases name <;> simp [Answer.ofSlices, signatureItem, commas]

theorem signatureSlices?_eq_none_iff : script.signatureSlices? line column = none ↔
    ∃ found, script.line? line = some found ∧ CallBehindWide (before found column) := by
  rw [signatureSlices?]
  cases script.line? line with
  | none => simp
  | some found =>
    simp only [← callSlices?_eq_none_iff, Option.some_inj, exists_eq_left']
    rcases callSlices? (before found column) with _ | _ | _ <;> simp

end Calls

-- Where the engine breaks down: stepping back over a word, it goes on by one byte behind a
-- character that takes more.
def StopsAt (script : Script) (question : String) (line column : Nat) : Prop :=
  ∃ found, script.line? line = some found ∧
    (question = "complete" ∧ BehindWide (before found column) ∨
      question = "signatures" ∧ CallBehindWide (before found column))

theorem complete_eq_crash_iff :
    script.complete line column = .crash ↔ script.StopsAt "complete" line column := by
  rw [complete_eq_slices, Answer.ofSlices_eq_crash_iff, completeSlices?_eq_none_iff]
  simp [StopsAt]

theorem signatures_eq_crash_iff :
    script.signatures line column = .crash ↔ script.StopsAt "signatures" line column := by
  rw [signatures_eq_slices, Answer.ofSlices_eq_crash_iff, signatureSlices?_eq_none_iff]
  simp [StopsAt]

theorem inlineAt_ne_crash : script.inlineAt line column ≠ .crash := by
  unfold inlineAt
  repeat' split
  all_goals exact nofun

end Script

theorem ask_eq_crash_iff {script : Script} {question : String} {line column : Nat} :
    ask script question line column = .crash ↔ script.StopsAt question line column := by
  have others : question ≠ "complete" → question ≠ "signatures" →
      ¬ script.StopsAt question line column := by
    rintro incomplete unsigned ⟨found, -, ⟨same, -⟩ | ⟨same, -⟩⟩
    · exact incomplete same
    · exact unsigned same
  unfold ask
  split
  case h_3 => exact Script.complete_eq_crash_iff
  case h_6 => exact Script.signatures_eq_crash_iff
  case h_9 => exact iff_of_false Script.inlineAt_ne_crash (others (by decide) (by decide))
  case h_10 incomplete _ _ unsigned _ _ _ =>
    exact iff_of_false nofun (others incomplete unsigned)
  all_goals exact iff_of_false nofun (others (by decide) (by decide))

end TextEngine

end PythonAssist
