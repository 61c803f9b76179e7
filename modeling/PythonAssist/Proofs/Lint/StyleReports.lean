import PythonAssist.Proofs.Lint.StyleLayers
import PythonAssist.Proofs.Text.ByteOffsets

set_option autoImplicit false

namespace PythonAssist

open String (utf8Len)

def Reported (ignored selected : List String) (code : List Char) : Prop :=
  if selected = [] then ∀ front ∈ ignored, ¬ front.toList <+: code
  else ∃ front ∈ selected, front.toList <+: code

instance (ignored selected : List String) (code : List Char) :
    Decidable (Reported ignored selected code) :=
  inferInstanceAs (Decidable (if selected = [] then ∀ front ∈ ignored, ¬ front.toList <+: code
    else ∃ front ∈ selected, front.toList <+: code))

theorem StyleOptions.any_startsWith_iff {fronts : List String} {code : String} :
    fronts.any (startsWith code) = true ↔ ∃ front ∈ fronts, front.toList <+: code.toList := by
  simp only [List.any_eq_true, startsWith, List.isPrefixOf_iff_prefix]

theorem StyleLayer.isIgnored_options_iff {layer : StyleLayer} {code : String} :
    layer.options.isIgnored code = true ↔
      ¬ Reported (layer.ignore.getD StyleOptions.defaultIgnore) (layer.select.getD []) code.toList := by
  unfold Reported StyleOptions.isIgnored options
  rw [Bool.and_eq_true, Bool.not_eq_true', ← Bool.not_eq_true,
    StyleOptions.any_startsWith_iff, StyleOptions.any_startsWith_iff]
  by_cases none : layer.select.getD [] = []
  next => simp [none]
  next => simp [none]

namespace StyleFinding

def firstFour (finding : StyleFinding) : List Char := finding.text.toList.take 4

-- Either the first four characters take a byte each, or there are no more than four and no front
-- of the text ends behind its fourth byte.
def HasPlainCode (finding : StyleFinding) : Prop :=
  (∀ c ∈ finding.firstFour, c.utf8Size = 1) ∨
    finding.text.toList.length ≤ 4 ∧
      ∀ front, front <+: finding.text.toList → utf8Len front = 4 → front = finding.text.toList

theorem code_eq_firstFour_iff {finding : StyleFinding} :
    finding.code.toList = finding.firstFour ↔ finding.HasPlainCode := by
  have four : finding.firstFour <+: finding.text.toList := List.take_prefix 4 _
  have sized := length_le_utf8Len finding.firstFour
  have counted : finding.firstFour.length = min 4 finding.text.toList.length := List.length_take
  unfold HasPlainCode
  rw [← utf8Len_eq_length_iff]
  cases cut : bytePrefix? 4 finding.text.toList with
  | none =>
    have uncut (front : List Char) (inside : front <+: finding.text.toList) : utf8Len front ≠ 4 :=
      fun sized => by
        rw [bytePrefix?_eq_some_iff.mpr ⟨inside, sized⟩] at cut
        cases cut
    have whole : finding.code = finding.text := by rw [code, cut]
    have bytes := uncut _ four
    rw [whole, eq_comm, firstFour, List.take_eq_self_iff, ← firstFour]
    constructor
    · exact fun short => .inr ⟨short, fun front inside sized => absurd sized (uncut front inside)⟩
    · rintro (plain | short)
      · omega
      · exact short.1
  | some front =>
    obtain ⟨inside, bytes⟩ := bytePrefix?_eq_some_iff.mp cut
    have found : finding.code.toList = front := by rw [code, cut, String.toList_ofList]
    have within := List.IsPrefix.length_le inside
    rw [found]
    constructor
    · rintro rfl
      by_cases long : 4 ≤ finding.text.toList.length
      next => exact .inl (by omega)
      next =>
        have whole : finding.firstFour = finding.text.toList :=
          List.take_of_length_le (by omega)
        refine .inr ⟨by omega, fun other inside' bytes' => ?_⟩
        rw [← whole]
        exact eq_of_prefix_of_utf8Len inside' inside (bytes'.trans bytes.symm)
    · rintro (plain | ⟨short, cuts⟩)
      · have fits := String.utf8Len_le_of_prefix inside
        apply eq_of_prefix_of_utf8Len inside four
        by_cases long : 4 ≤ finding.text.toList.length
        next => omega
        next =>
          have whole : finding.firstFour = finding.text.toList :=
            List.take_of_length_le (by omega)
          rw [whole] at plain
          omega
      · rw [cuts front inside bytes, firstFour, List.take_of_length_le short]

theorem reported_iff_hasPlainCode {finding : StyleFinding} :
    (∀ ignored selected, Reported ignored selected finding.code.toList ↔
      Reported ignored selected finding.firstFour) ↔ finding.HasPlainCode := by
  rw [← code_eq_firstFour_iff]
  constructor
  · intro same
    have selects (front code : List Char) :
        Reported [] [String.ofList front] code ↔ front <+: code := by simp [Reported]
    have code := (same [] [String.ofList finding.code.toList]).mp (by rw [selects])
    have four := (same [] [String.ofList finding.firstFour]).mpr (by rw [selects])
    rw [selects] at code four
    exact code.eq_of_length_le four.length_le
  · intro same ignored selected
    rw [same]

end StyleFinding

theorem styleDiagnostics_eq (layer : StyleLayer) (findings : List StyleFinding)
    (lines : List String) :
    styleDiagnostics findings lines layer.options =
      (findings.filter fun finding =>
        Reported (layer.ignore.getD StyleOptions.defaultIgnore) (layer.select.getD [])
          finding.code.toList).map (styleDiagnostic lines) := by
  unfold styleDiagnostics
  congr 1
  apply List.filter_congr
  intro finding _
  rw [Bool.eq_iff_iff, Bool.not_eq_true', ← Bool.not_eq_true, StyleLayer.isIgnored_options_iff,
    not_not, decide_eq_true_iff]

-- Each option has the value of the last readable file that sets it, and findings are reported by
-- the fronts of their codes. A code is the first four characters of its text if these take a byte
-- each.
theorem style_layers_decide_reports (disk : Disk) (folder override : Option Path) :
    ∃ layer : StyleLayer,
      (∀ other : StyleLayer,
        other.IsEffective disk (StyleOptions.files folder override) ↔ layer = other) ∧
      let ignored := layer.ignore.getD StyleOptions.defaultIgnore
      let selected := layer.select.getD []
      StyleOptions.load disk folder override =
        { ignore := if selected = [] then ignored else [""]
          select := selected
          maxLineLength := layer.maxLineLength.getD StyleOptions.defaultMaxLineLength
          maxDocLength := layer.maxDocLength
          hangClosing := layer.hangClosing.getD false } ∧
      ∀ (findings : List StyleFinding) (lines : List String),
        styleDiagnostics findings lines (StyleOptions.load disk folder override) =
          (findings.filter fun finding => Reported ignored selected finding.code.toList).map
            (styleDiagnostic lines) ∧
        ((∀ finding ∈ findings, finding.HasPlainCode) →
          styleDiagnostics findings lines (StyleOptions.load disk folder override) =
            (findings.filter fun finding => Reported ignored selected finding.firstFour).map
              (styleDiagnostic lines)) ∧
        ∀ finding ∈ findings,
          (finding.code.toList = finding.firstFour ↔ finding.HasPlainCode) ∧
          ((∀ ignored selected, Reported ignored selected finding.code.toList ↔
            Reported ignored selected finding.firstFour) ↔ finding.HasPlainCode) := by
  refine ⟨_, fun other => StyleLayer.isEffective_iff, ?_, fun findings lines => ?_⟩
  · unfold StyleOptions.load StyleLayer.options
    simp only [List.isEmpty_iff]
  · have listed := styleDiagnostics_eq
      (.stack ((StyleOptions.files folder override).filterMap (StyleLayer.ofFile disk)))
      findings lines
    refine ⟨listed, fun plain => ?_, fun finding _ =>
      ⟨finding.code_eq_firstFour_iff, finding.reported_iff_hasPlainCode⟩⟩
    rw [StyleOptions.load, listed]
    congr 1
    apply List.filter_congr
    intro finding member
    rw [StyleFinding.code_eq_firstFour_iff.mpr (plain finding member)]

example (folder override : Path) : StyleOptions.files (some folder) (some override) =
    [folder.join "setup.cfg", folder.join "tox.ini", folder.join ".pycodestyle", override] := rfl

theorem style_layers_skip_spoiled_file :
    let folder := Path.ofString "/p"
    let disk := Disk.ofFiles
      [(folder.join "setup.cfg", Utf8.encode "[pycodestyle]\nselect = E2, W\nignore = E501\n"),
       (folder.join "tox.ini", Utf8.encode "[pycodestyle]\nselect =\nmax-line-length = 100\n"),
       (folder.join ".pycodestyle",
         Utf8.encode "[pycodestyle]\nignore = W\nmax-doc-length = wide\n")]
    let options := StyleOptions.load disk (some folder) none
    let long : StyleFinding := { line := 1, column := 100, text := "E501 line too long" }
    let trailing : StyleFinding := { line := 2, column := 5, text := "W291 trailing whitespace" }
    (∀ finding ∈ [long, trailing], finding.HasPlainCode) ∧
      options =
        { ignore := ["E501"], select := [], maxLineLength := 100, maxDocLength := none
          hangClosing := false } ∧
      styleDiagnostics [long, trailing] ["x = 1\n", "y = 2 \n"] options =
        [{ range := .onLine 1 5 6, severity := .warning, code := some "W291"
           source := .pycodestyle, message := "W291 trailing whitespace" }] := by
  intro folder disk options long trailing
  have plain : ∀ finding ∈ [long, trailing], finding.HasPlainCode := by
    have bytes : [long, trailing].all fun finding =>
        finding.firstFour.all fun c => c.utf8Size == 1 := by decide +kernel
    simp only [List.all_eq_true, beq_iff_eq] at bytes
    exact fun finding member => .inl (bytes finding member)
  have loaded : options =
      { ignore := ["E501"], select := [], maxLineLength := 100, maxDocLength := none
        hangClosing := false } := by decide +kernel
  obtain ⟨layer, -, whole, reports⟩ := style_layers_decide_reports disk (some folder) none
  have selected : layer.select.getD [] = [] := congrArg StyleOptions.select (whole.symm.trans loaded)
  have ignored : layer.ignore.getD StyleOptions.defaultIgnore = ["E501"] := by
    have ignored := congrArg StyleOptions.ignore (whole.symm.trans loaded)
    rwa [if_pos selected] at ignored
  refine ⟨plain, loaded, ?_⟩
  rw [(reports _ _).2.1 plain, selected, ignored]
  decide +kernel

-- The first four characters are the ignored "é501", but the code ends behind four bytes.
theorem code_of_accented_finding_is_cut_short :
    let folder := Path.ofString "/p"
    let disk := Disk.ofFiles
      [(folder.join "setup.cfg", Utf8.encode "[pycodestyle]\nignore = é501\n")]
    let options := StyleOptions.load disk (some folder) none
    let finding : StyleFinding := { line := 1, column := 0, text := "é501 x" }
    options.ignore = ["é501"] ∧ options.select = [] ∧ "é501".toList <+: finding.firstFour ∧
      finding.code = "é50" ∧
      styleDiagnostics [finding] ["x\n"] options = [styleDiagnostic ["x\n"] finding] := by
  decide +kernel

end PythonAssist
