import Mathlib.Data.List.Basic
import PythonAssist.Lint.StyleFiles

set_option autoImplicit false

namespace PythonAssist

structure StyleKey (A : Type) where
  name : String
  read? : Json → Option A

namespace StyleKey

def codeList (name : String) : StyleKey (List String) :=
  { name, read? := fun value => (ConfigSource.asText value).map StyleLayer.codes }

def length (name : String) : StyleKey UInt32 :=
  { name
    read? := fun value => (ConfigSource.asText value).bind fun text =>
      (unsigned? 4294967296 (trimChars text.toList)).map UInt32.ofNat }

def ignore : StyleKey (List String) := codeList "ignore"

def select : StyleKey (List String) := codeList "select"

def maxLineLength : StyleKey UInt32 := length "max-line-length"

def maxDocLength : StyleKey UInt32 := length "max-doc-length"

def hangClosing : StyleKey Bool := { name := "hang-closing", read? := ConfigSource.asFlag }

variable {A : Type} (key : StyleKey A)

def Writes (fields : Fields) (value : Json) : Prop :=
  StyleLayer.keyValue fields key.name = some value

def Legible (fields : Fields) : Prop :=
  ∀ value, key.Writes fields value → (key.read? value).isSome

def value? (fields : Fields) : Option A := (StyleLayer.keyValue fields key.name).bind key.read?

end StyleKey

structure StyleFile (disk : Disk) (path : Path) (fields : Fields) : Prop where
  content : ∃ bytes sections, disk.read path = some bytes ∧
    Ini.read (ConfigSource.textOf bytes) = some sections ∧ ConfigSource.addTo [] sections = fields
  lineLength : StyleKey.maxLineLength.Legible fields
  docLength : StyleKey.maxDocLength.Legible fields

namespace StyleKey

variable {A : Type} (key : StyleKey A)

def SetBy (disk : Disk) (path : Path) (found : A) : Prop :=
  ∃ fields value, StyleFile disk path fields ∧ key.Writes fields value ∧
    key.read? value = some found

def Effective (disk : Disk) (files : List Path) : Option A → Prop
  | some found => ∃ before path after, files = before ++ path :: after ∧
      key.SetBy disk path found ∧ ∀ later ∈ after, ∀ other, ¬ key.SetBy disk later other
  | none => ∀ path ∈ files, ∀ other, ¬ key.SetBy disk path other

theorem length_eq_some_iff {name : String} {fields : Fields} {found : Option UInt32} :
    StyleLayer.length fields name = some found ↔
      (length name).Legible fields ∧ (length name).value? fields = found := by
  rw [StyleLayer.length, value?]
  unfold Legible Writes length
  cases written : StyleLayer.keyValue fields name with
  | none => simp
  | some value =>
    cases worded : ConfigSource.asText value with
    | none => simp [worded]
    | some text => cases read : unsigned? 4294967296 (trimChars text.toList) <;> simp [worded, read]

end StyleKey

namespace StyleLayer

def written (fields : Fields) : StyleLayer :=
  { ignore := StyleKey.ignore.value? fields
    select := StyleKey.select.value? fields
    maxLineLength := StyleKey.maxLineLength.value? fields
    maxDocLength := StyleKey.maxDocLength.value? fields
    hangClosing := StyleKey.hangClosing.value? fields }

theorem codeList_eq (fields : Fields) (name : String) :
    codeList fields name = (StyleKey.codeList name).value? fields := by
  unfold codeList StyleKey.value? StyleKey.codeList
  cases keyValue fields name <;> rfl

theorem ofFields_eq_some_iff {fields : Fields} {layer : StyleLayer} :
    ofFields fields = some layer ↔ StyleKey.maxLineLength.Legible fields ∧
      StyleKey.maxDocLength.Legible fields ∧ written fields = layer := by
  simp only [ofFields, Option.bind_eq_bind, Option.bind_eq_some_iff, Option.pure_def,
    Option.some_inj, StyleKey.length_eq_some_iff, codeList_eq]
  constructor
  · rintro ⟨_, ⟨lines, rfl⟩, _, ⟨docs, rfl⟩, same⟩
    exact ⟨lines, docs, same⟩
  · rintro ⟨lines, docs, same⟩
    exact ⟨_, ⟨lines, rfl⟩, _, ⟨docs, rfl⟩, same⟩

theorem ofFile_eq_some_iff {disk : Disk} {path : Path} {layer : StyleLayer} :
    ofFile disk path = some layer ↔ ∃ fields, StyleFile disk path fields ∧ written fields = layer := by
  simp only [ofFile, Option.bind_eq_bind, Option.bind_eq_some_iff, ofFields_eq_some_iff]
  constructor
  · rintro ⟨bytes, there, sections, parsed, lines, docs, same⟩
    exact ⟨_, ⟨⟨bytes, sections, there, parsed, rfl⟩, lines, docs⟩, same⟩
  · rintro ⟨_, ⟨⟨bytes, sections, there, parsed, rfl⟩, lines, docs⟩, same⟩
    exact ⟨bytes, there, sections, parsed, lines, docs, same⟩

end StyleLayer

namespace StyleKey

variable {A : Type} {key : StyleKey A}

structure Kept (key : StyleKey A) (slot : StyleLayer → Option A) : Prop where
  empty : slot .empty = none
  layOver : ∀ upper lower : StyleLayer, slot (upper.layOver lower) = (slot upper).or (slot lower)
  written : ∀ fields, slot (.written fields) = key.value? fields

theorem ignore_kept : ignore.Kept StyleLayer.ignore := ⟨rfl, fun _ _ => rfl, fun _ => rfl⟩

theorem select_kept : select.Kept StyleLayer.select := ⟨rfl, fun _ _ => rfl, fun _ => rfl⟩

theorem maxLineLength_kept : maxLineLength.Kept StyleLayer.maxLineLength :=
  ⟨rfl, fun _ _ => rfl, fun _ => rfl⟩

theorem maxDocLength_kept : maxDocLength.Kept StyleLayer.maxDocLength :=
  ⟨rfl, fun _ _ => rfl, fun _ => rfl⟩

theorem hangClosing_kept : hangClosing.Kept StyleLayer.hangClosing :=
  ⟨rfl, fun _ _ => rfl, fun _ => rfl⟩

variable {slot : StyleLayer → Option A}

theorem Kept.stack (kept : key.Kept slot) (layers : List StyleLayer) :
    slot (.stack layers) = (layers.filterMap slot).getLast? := by
  have laid (base : StyleLayer) :
      slot (layers.foldl (fun lower upper => upper.layOver lower) base) =
        ((layers.filterMap slot).getLast?).or (slot base) := by
    induction layers generalizing base with
    | nil => rfl
    | cons layer rest ih =>
      rw [List.foldl_cons, ih, kept.layOver, ← Option.or_assoc]
      cases set : slot layer with
      | none => rw [List.filterMap_cons_none set, Option.or_none]
      | some found => rw [List.filterMap_cons_some set, List.getLast?_cons]; simp
  rw [StyleLayer.stack, laid, kept.empty, Option.or_none]

theorem Kept.setBy_iff (kept : key.Kept slot) {disk : Disk} {path : Path} {found : A} :
    key.SetBy disk path found ↔ (StyleLayer.ofFile disk path).bind slot = some found := by
  simp only [SetBy, Option.bind_eq_some_iff, StyleLayer.ofFile_eq_some_iff]
  constructor
  · rintro ⟨fields, value, file, writes, read⟩
    refine ⟨_, ⟨fields, file, rfl⟩, ?_⟩
    rw [kept.written, value?, writes, Option.bind_some, read]
  · rintro ⟨_, ⟨fields, file, rfl⟩, held⟩
    rw [kept.written] at held
    obtain ⟨value, writes, read⟩ := Option.bind_eq_some_iff.mp held
    exact ⟨fields, value, file, writes, read⟩

theorem Kept.not_setBy_iff (kept : key.Kept slot) {disk : Disk} {path : Path} :
    (∀ other, ¬ key.SetBy disk path other) ↔ (StyleLayer.ofFile disk path).bind slot = none := by
  simp only [kept.setBy_iff, Option.eq_none_iff_forall_ne_some, ne_eq]

theorem Kept.effective_iff (kept : key.Kept slot) {disk : Disk} {files : List Path}
    {found : Option A} : key.Effective disk files found ↔
      slot (.stack (files.filterMap (StyleLayer.ofFile disk))) = found := by
  rw [kept.stack, List.filterMap_filterMap, List.getLast?_filterMap]
  cases found with
  | none => simp only [Effective, kept.not_setBy_iff, List.findSome?_eq_none_iff, List.mem_reverse]
  | some found =>
    rw [List.findSome?_eq_some_iff]
    simp only [Effective, kept.not_setBy_iff]
    simp only [kept.setBy_iff]
    constructor
    · rintro ⟨before, path, after, rfl, set, unset⟩
      exact ⟨after.reverse, path, before.reverse, by simp, set,
        fun later member => unset later (List.mem_reverse.mp member)⟩
    · rintro ⟨after, path, before, cut, set, unset⟩
      refine ⟨before.reverse, path, after.reverse, ?_, set,
        fun later member => unset later (List.mem_reverse.mp member)⟩
      rw [← List.reverse_reverse files, cut]
      simp

end StyleKey

structure StyleLayer.IsEffective (disk : Disk) (files : List Path) (layer : StyleLayer) :
    Prop where
  ignore : StyleKey.ignore.Effective disk files layer.ignore
  select : StyleKey.select.Effective disk files layer.select
  maxLineLength : StyleKey.maxLineLength.Effective disk files layer.maxLineLength
  maxDocLength : StyleKey.maxDocLength.Effective disk files layer.maxDocLength
  hangClosing : StyleKey.hangClosing.Effective disk files layer.hangClosing

theorem StyleLayer.isEffective_iff {disk : Disk} {files : List Path} {layer : StyleLayer} :
    layer.IsEffective disk files ↔ stack (files.filterMap (ofFile disk)) = layer := by
  constructor
  · rintro ⟨ignore, select, lineLength, docLength, hanging⟩
    rw [StyleKey.ignore_kept.effective_iff] at ignore
    rw [StyleKey.select_kept.effective_iff] at select
    rw [StyleKey.maxLineLength_kept.effective_iff] at lineLength
    rw [StyleKey.maxDocLength_kept.effective_iff] at docLength
    rw [StyleKey.hangClosing_kept.effective_iff] at hanging
    cases layer
    subst ignore select lineLength docLength hanging
    rfl
  · rintro rfl
    exact ⟨StyleKey.ignore_kept.effective_iff.mpr rfl, StyleKey.select_kept.effective_iff.mpr rfl,
      StyleKey.maxLineLength_kept.effective_iff.mpr rfl,
      StyleKey.maxDocLength_kept.effective_iff.mpr rfl,
      StyleKey.hangClosing_kept.effective_iff.mpr rfl⟩

end PythonAssist
