import PythonAssist.Proofs.Engine.ChangedFiles
import PythonAssist.Proofs.Wire.Header
import PythonAssist.TypeCheck

set_option autoImplicit false

namespace PythonAssist

namespace TypeCheck

structure Finding where
  row : UInt32
  column : UInt32
  severity : String
  message : String
  rowCounted : row ≠ 0
  columnCounted : column ≠ 0
  severityPlain : ':' ∉ severity.toList ∧ '\n' ∉ severity.toList
  messageOnLine : '\n' ∉ message.toList
  messageTrimmed : trim message = message

namespace Finding

def print (found : Finding) (file : Path) : String :=
  file.display ++ ":" ++ toString found.row.toNat ++ ":" ++ toString found.column.toNat ++ ": " ++
    found.severity ++ ": " ++ found.message

def diagnostic (found : Finding) (lines : List String) : Diagnostic where
  range := tokenRange lines (found.row - 1) (found.column - 1)
  severity := if trim found.severity = "note" then .hint else .warning
  code := none
  source := .mypy
  message := found.message

end Finding

def OutputLine.text (fields : OutputLine) : List Char :=
  fields.file ++ ':' :: (fields.row ++ ':' :: (fields.column ++ ':' ::
    (fields.severity ++ ':' :: fields.message)))

def Numeric (text : List Char) : Prop :=
  ∃ digits, (trimChars text = digits ∨ trimChars text = '+' :: digits) ∧ digits ≠ [] ∧
    (∀ c ∈ digits, c.isDigit = true) ∧ natOfDigits digits < 2 ^ 32

def Concerns (file : Path) (line : List Char) : Prop :=
  ∃ fields : OutputLine, line = fields.text ∧ fields.file = file.display.toList ∧
    Numeric fields.row ∧ Numeric fields.column ∧ ':' ∉ fields.severity

inductive Entry (file : Path) where
  | finding (found : Finding)
  | other (line : List Char) (single : '\n' ∉ line) (unrelated : ¬ Concerns file line)

namespace Entry

variable {file : Path}

def text : Entry file → List Char
  | .finding found => (found.print file).toList
  | .other line _ _ => line

def finding? : Entry file → Option Finding
  | .finding found => some found
  | .other _ _ _ => none

-- An empty last line stands for a line break at the end.
def output (entries : List (Entry file)) : String :=
  String.ofList (List.intercalate ['\n'] (entries.map text))

end Entry

theorem OutputLine.ofChars_eq_some {line : List Char} {fields : OutputLine} :
    ofChars line = some fields ↔ line = fields.text ∧ ':' ∉ fields.file ∧ ':' ∉ fields.row ∧
      ':' ∉ fields.column ∧ ':' ∉ fields.severity := by
  constructor
  · intro cut
    simp only [ofChars, bind, Option.bind_eq_some_iff, Prod.exists, pure, Option.some.injEq,
      splitFirst_eq_some] at cut
    obtain ⟨file, _, ⟨freeFile, rfl⟩, row, _, ⟨freeRow, rfl⟩, column, _, ⟨freeColumn, rfl⟩,
      severity, message, ⟨freeSeverity, rfl⟩, rfl⟩ := cut
    exact ⟨rfl, freeFile, freeRow, freeColumn, freeSeverity⟩
  · rintro ⟨rfl, freeFile, freeRow, freeColumn, freeSeverity⟩
    simp [ofChars, text, splitFirst_append, freeFile, freeRow, freeColumn, freeSeverity]

theorem number?_isSome_iff {text : List Char} : (number? text).isSome = true ↔ Numeric text := by
  rw [number?, Option.isSome_map, Option.isSome_iff_exists]
  constructor
  · rintro ⟨n, read⟩
    obtain ⟨digits, written, filled, digital, rfl, below⟩ := unsigned?_eq_some.mp read
    exact ⟨digits, written, filled, digital, below⟩
  · rintro ⟨digits, written, filled, digital, below⟩
    exact ⟨_, unsigned?_eq_some.mpr ⟨digits, written, filled, digital, rfl, below⟩⟩

theorem Numeric.colon_not_mem {text : List Char} (numeric : Numeric text) : ':' ∉ text := by
  obtain ⟨digits, written, -, digital, -⟩ := numeric
  intro member
  have kept := mem_trimChars member (by decide)
  have plain : ':' ∉ digits := fun digit => by
    have := digital ':' digit
    simp at this
  rcases written with same | same
  · exact plain (same ▸ kept)
  · rw [same] at kept
    exact plain (List.mem_of_ne_of_mem (by decide) kept)

theorem finding_of_fields {file : Path} {line : List Char} {fields : OutputLine}
    {row column : UInt32} (cut : OutputLine.ofChars line = some fields)
    (named : fields.file = file.display.toList) (readRow : number? fields.row = some row)
    (readColumn : number? fields.column = some column) (lines : List String) :
    finding file lines line = some {
      range := tokenRange lines (previous row) (previous column)
      severity := severityOf fields.severity
      code := none, source := .mypy
      message := String.ofList (trimChars fields.message) } := by
  simp [finding, cut, named, readRow, readColumn]

-- The path is cut at its own colons as well.
theorem finding_isSome_iff {file : Path} {lines : List String} {line : List Char} :
    (finding file lines line).isSome = true ↔ ':' ∉ file.display.toList ∧ Concerns file line := by
  constructor
  · intro reported
    obtain ⟨diagnostic, reported⟩ := Option.isSome_iff_exists.mp reported
    obtain ⟨fields, cut, reported⟩ := Option.bind_eq_some_iff.mp reported
    obtain ⟨whole, freeFile, -, -, freeSeverity⟩ := OutputLine.ofChars_eq_some.mp cut
    by_cases named : fields.file = file.display.toList
    · rw [if_neg (not_not.mpr named)] at reported
      obtain ⟨row, readRow, reported⟩ := Option.bind_eq_some_iff.mp reported
      obtain ⟨column, readColumn, -⟩ := Option.bind_eq_some_iff.mp reported
      have numericRow := number?_isSome_iff.mp (Option.isSome_of_eq_some readRow)
      have numericColumn := number?_isSome_iff.mp (Option.isSome_of_eq_some readColumn)
      exact ⟨named ▸ freeFile, fields, whole, named, numericRow, numericColumn, freeSeverity⟩
    · rw [if_pos named] at reported
      cases reported
  · rintro ⟨free, fields, whole, named, numericRow, numericColumn, freeSeverity⟩
    obtain ⟨row, readRow⟩ := Option.isSome_iff_exists.mp (number?_isSome_iff.mpr numericRow)
    obtain ⟨column, readColumn⟩ :=
      Option.isSome_iff_exists.mp (number?_isSome_iff.mpr numericColumn)
    have cut := OutputLine.ofChars_eq_some.mpr ⟨whole, named ▸ free, numericRow.colon_not_mem,
      numericColumn.colon_not_mem, freeSeverity⟩
    rw [finding_of_fields cut named readRow readColumn]
    rfl

theorem not_mem_toString {c : Char} (other : c.isDigit = false) (n : Nat) :
    c ∉ (toString n).toList := fun member => by
  rw [isDigit_of_mem_toString member] at other
  cases other

theorem number?_toString (n : UInt32) : number? (toString n.toNat).toList = some n := by
  have read : unsigned? 4294967296 (toString n.toNat).toList = some n.toNat :=
    unsigned?_toString n.toNat_lt
  rw [number?, trimChars_toString, read, Option.map_some, UInt32.ofNat_toNat]

namespace Finding

variable (found : Finding)

def fields (file : Path) : OutputLine where
  file := file.display.toList
  row := (toString found.row.toNat).toList
  column := (toString found.column.toNat).toList
  severity := ' ' :: found.severity.toList
  message := ' ' :: found.message.toList

theorem toList_print (file : Path) : (found.print file).toList = (found.fields file).text := by
  simp [print, fields, OutputLine.text]

theorem newline_not_mem_print {file : Path} (onLine : '\n' ∉ file.display.toList) :
    '\n' ∉ (found.print file).toList := by
  have number := @not_mem_toString '\n' (by decide)
  have solid : '\n' ≠ ':' ∧ '\n' ≠ ' ' := by decide
  rw [toList_print]
  simp only [fields, OutputLine.text, List.mem_append, List.mem_cons, onLine, number, solid.1,
    solid.2, found.severityPlain.2, found.messageOnLine, or_self, not_false_eq_true]

theorem severityOf_fields (file : Path) :
    severityOf (found.fields file).severity =
      if trim found.severity = "note" then .hint else .warning := by
  have same : trim found.severity = "note" ↔ trimChars found.severity.toList = "note".toList := by
    rw [← String.toList_inj, trim, String.toList_ofList]
  simp only [fields, severityOf, trimChars_space, same]

theorem finding_print {file : Path} (free : ':' ∉ file.display.toList) (lines : List String) :
    finding file lines (found.print file).toList = some (found.diagnostic lines) := by
  have number := @not_mem_toString ':' (by decide)
  have cut : OutputLine.ofChars (found.fields file).text = some (found.fields file) := by
    refine OutputLine.ofChars_eq_some.mpr ⟨rfl, free, number _, number _, ?_⟩
    simpa [fields] using found.severityPlain.1
  have read := finding_of_fields cut rfl (number?_toString found.row)
    (number?_toString found.column) lines
  have message : String.ofList (trimChars (found.fields file).message) = found.message := by
    rw [fields, trimChars_space]
    exact found.messageTrimmed
  rw [toList_print, read, previous, if_neg found.rowCounted, previous, if_neg found.columnCounted,
    severityOf_fields, message]
  rfl

end Finding

theorem finding_eq_none {file : Path} {line : List Char}
    (skipped : ¬ (':' ∉ file.display.toList ∧ Concerns file line)) (lines : List String) :
    finding file lines line = none :=
  Option.not_isSome_iff_eq_none.mp fun reported => skipped (finding_isSome_iff.mp reported)

theorem not_concerns {file : Path} {line : List Char} (free : ':' ∉ file.display.toList)
    (skipped : finding file [] line = none) : ¬ Concerns file line := fun concerns =>
  Option.not_isSome_iff_eq_none.mpr skipped (finding_isSome_iff.mpr ⟨free, concerns⟩)

theorem Entry.finding_text {file : Path} (free : ':' ∉ file.display.toList) (lines : List String)
    (entry : Entry file) :
    TypeCheck.finding file lines entry.text = entry.finding?.map (·.diagnostic lines) := by
  cases entry with
  | finding found => exact found.finding_print free lines
  | other line single unrelated => exact finding_eq_none (fun both => unrelated both.2) lines

theorem splitOn_output {file : Path} (onLine : '\n' ∉ file.display.toList)
    {entries : List (Entry file)} (filled : entries ≠ []) :
    splitOn '\n' (Entry.output entries).toList = entries.map Entry.text := by
  rw [Entry.output, String.toList_ofList, splitOn_intercalate (by simpa using filled)]
  intro line member
  obtain ⟨entry, -, rfl⟩ := List.mem_map.mp member
  cases entry with
  | finding found => exact found.newline_not_mem_print onLine
  | other line single => exact single

theorem findings_of_printed_output {file : Path} (onLine : '\n' ∉ file.display.toList)
    (entries : List (Entry file)) (lines : List String) :
    (':' ∉ file.display.toList → findings (Entry.output entries) file lines =
      (entries.filterMap Entry.finding?).map (·.diagnostic lines)) ∧
    (':' ∈ file.display.toList → findings (Entry.output entries) file lines = []) := by
  constructor
  · intro free
    cases entries with
    | nil => rfl
    | cons entry rest =>
      rw [findings, splitOn_output onLine (List.cons_ne_nil entry rest), List.filterMap_map,
        List.map_filterMap]
      exact congrArg (List.filterMap · _) (funext (Entry.finding_text free lines))
  · intro cut
    exact List.filterMap_eq_nil_iff.mpr fun _ _ => finding_eq_none (fun both => both.1 cut) lines

theorem findings_among_other_lines :
    let file := Path.ofString "/proj/mod.py"
    '\n' ∉ file.display.toList ∧ ':' ∉ file.display.toList ∧
      ∃ entries : List (Entry file),
        Entry.output entries = "garbage line\n/proj/other.py:3:1: error: Something else\n" ++
          "/proj/mod.py:x:1: error: bad row\n/proj/mod.py:2:3: note: see: docs\n" ∧
        findings (Entry.output entries) file ["x = 1\n", "reveal_type(x)\r\n"] =
          [{ range := .onLine 1 2 14, severity := .hint, code := none, source := .mypy
             message := "see: docs" }] := by
  intro file
  have shown : file.display = "/proj/mod.py" := Path.display_ofString _
  have onLine : '\n' ∉ file.display.toList := by rw [shown]; decide
  have free : ':' ∉ file.display.toList := by rw [shown]; decide
  let note : Finding :=
    { row := 2, column := 3, severity := "note", message := "see: docs"
      rowCounted := by decide, columnCounted := by decide, severityPlain := by decide
      messageOnLine := by decide, messageTrimmed := by decide }
  let entries : List (Entry file) :=
    [.other "garbage line".toList (by decide) (not_concerns free (by rw [finding]; rfl)),
     .other "/proj/other.py:3:1: error: Something else".toList (by decide)
        (not_concerns free (by simp only [finding, shown]; rfl)),
     .other "/proj/mod.py:x:1: error: bad row".toList (by decide)
        (not_concerns free (by simp only [finding, shown]; rfl)),
     .finding note,
     .other [] (by decide) (not_concerns free rfl)]
  refine ⟨onLine, free, entries, ?_, ?_⟩
  · simp only [entries, Entry.output, List.map_cons, List.map_nil, Entry.text, Finding.print, shown]
    decide +kernel
  · rw [(findings_of_printed_output onLine entries _).1 free]
    change [note.diagnostic _] = _
    decide +kernel

theorem finding_of_colon_path_is_lost :
    let file := Path.ofString "/proj/a:b.py"
    '\n' ∉ file.display.toList ∧
      ∃ found : Finding, found.print file ++ "\n" = "/proj/a:b.py:1:1: error: m\n" ∧
        findings (found.print file ++ "\n") file ["x\n"] = [] := by
  intro file
  have shown : file.display = "/proj/a:b.py" := Path.display_ofString _
  let found : Finding :=
    { row := 1, column := 1, severity := "error", message := "m"
      rowCounted := by decide, columnCounted := by decide, severityPlain := by decide
      messageOnLine := by decide, messageTrimmed := by decide }
  have printed : found.print file ++ "\n" = "/proj/a:b.py:1:1: error: m\n" := by
    rw [Finding.print, shown]
    decide +kernel
  have cut : ':' ∈ file.display.toList := by rw [shown]; decide
  refine ⟨by rw [shown]; decide, found, printed, ?_⟩
  exact List.filterMap_eq_nil_iff.mpr fun _ _ => finding_eq_none (fun both => both.1 cut) _

end TypeCheck

end PythonAssist
