import PythonAssist.Settings

set_option autoImplicit false

namespace PythonAssist

namespace Json

theorem decodeBool_eq_ok_iff {value : Json} {flag : Bool} :
    decodeBool value = .ok flag ↔ value = .bool flag := by
  cases value <;> simp [decodeBool, mismatch]

theorem decodeString_eq_ok_iff {value : Json} {text : String} :
    decodeString value = .ok text ↔ value = .string text := by
  cases value <;> simp [decodeString, mismatch]

theorem mapM_decodeString_eq_ok_iff {items : List Json} {texts : List String} :
    items.mapM decodeString = .ok texts ↔ items = texts.map .string := by
  induction items generalizing texts with
  | nil => cases texts <;> simp [pure, Except.pure]
  | cons item rest ih =>
    rw [List.mapM_cons]
    cases first : decodeString item with
    | error cause =>
      cases texts <;> simp [bind, Except.bind, ← decodeString_eq_ok_iff, first]
    | ok text =>
      cases later : rest.mapM decodeString with
      | error cause =>
        cases texts <;> simp [bind, Except.bind, ← decodeString_eq_ok_iff, ← ih, first, later]
      | ok others =>
        cases texts <;>
          simp [bind, Except.bind, pure, Except.pure, ← decodeString_eq_ok_iff, ← ih, first,
            later]

theorem decodeStrings_eq_ok_iff {value : Json} {texts : List String} :
    decodeList decodeString value = .ok texts ↔ value = .strings texts := by
  cases value <;> simp [decodeList, mismatch, strings, list, mapM_decodeString_eq_ok_iff]

theorem decodeFile_eq_ok_iff {value : Json} {file : Option Path} :
    decodeOption Path.decode value = .ok file ↔
      value = .null ∧ file = none ∨
        ∃ text, value = .string text ∧ file = some (.ofString text) := by
  cases value <;> simp [decodeOption, Path.decode, mismatch, Except.map, eq_comm]

end Json

inductive SettingKey where
  | flakeErrors
  | styleConfig
  | helpOnHover
  | typeCheck
  deriving DecidableEq, Repr

namespace SettingKey

def name : SettingKey → String
  | .flakeErrors => "pyflakes_errors"
  | .styleConfig => "pycodestyle_config"
  | .helpOnHover => "help_on_hover"
  | .typeCheck => "mypy_enabled"

def value? (key : SettingKey) (update : List (String × Json)) : Option Json :=
  Json.field? key.name update

def Accepts : SettingKey → Json → Prop
  | .flakeErrors, value => ∃ texts, value = .strings texts
  | .styleConfig, value => value = .null ∨ ∃ text, value = .string text
  | .helpOnHover, value => ∃ flag, value = .bool flag
  | .typeCheck, value => ∃ flag, value = .bool flag

def Holds (settings : Settings) : SettingKey → Json → Prop
  | .flakeErrors, value => value = .strings settings.flakeErrors
  | .styleConfig, value =>
    value = .null ∧ settings.styleConfig = none ∨
      ∃ text, value = .string text ∧ settings.styleConfig = some (.ofString text)
  | .helpOnHover, value => value = .bool settings.helpOnHover
  | .typeCheck, value => value = .bool settings.typeCheck

def Same (first second : Settings) : SettingKey → Prop
  | .flakeErrors => first.flakeErrors = second.flakeErrors
  | .styleConfig => first.styleConfig = second.styleConfig
  | .helpOnHover => first.helpOnHover = second.helpOnHover
  | .typeCheck => first.typeCheck = second.typeCheck

def Wrong (key : SettingKey) (update : List (String × Json)) : Prop :=
  ∃ value, key.value? update = some value ∧ ¬ key.Accepts value

theorem Holds.accepts {settings : Settings} {key : SettingKey} {value : Json}
    (holds : Holds settings key value) : key.Accepts value := by
  cases key with
  | flakeErrors => exact ⟨_, holds⟩
  | styleConfig =>
    exact holds.imp And.left fun ⟨text, same, _⟩ => ⟨text, same⟩
  | helpOnHover => exact ⟨_, holds⟩
  | typeCheck => exact ⟨_, holds⟩

end SettingKey

def SettingsChange.marks (change : SettingsChange) : SettingKey → Bool
  | .flakeErrors => change.flakeErrors
  | .styleConfig => change.styleConfig
  | .helpOnHover => change.helpOnHover
  | .typeCheck => change.typeCheck

theorem SettingsChange.needsRevalidation_iff (change : SettingsChange) :
    change.needsRevalidation = true ↔ ∃ key, key ≠ .helpOnHover ∧ change.marks key = true := by
  constructor
  · intro needed
    simp only [needsRevalidation, Bool.or_eq_true] at needed
    rcases needed with (flakes | style) | types
    · exact ⟨.flakeErrors, by decide, flakes⟩
    · exact ⟨.styleConfig, by decide, style⟩
    · exact ⟨.typeCheck, by decide, types⟩
  · rintro ⟨key, other, marked⟩
    cases key <;> simp_all [needsRevalidation, marks]

namespace Json

theorem decodeStrings_of_accepts (value : Json) (accepted : SettingKey.flakeErrors.Accepts value) :
    ∃ texts, decodeList decodeString value = .ok texts := by
  obtain ⟨texts, same⟩ := accepted
  exact ⟨texts, decodeStrings_eq_ok_iff.mpr same⟩

theorem decodeFile_of_accepts (value : Json) (accepted : SettingKey.styleConfig.Accepts value) :
    ∃ file, decodeOption Path.decode value = .ok file := by
  rcases accepted with empty | ⟨text, same⟩
  · exact ⟨none, decodeFile_eq_ok_iff.mpr (.inl ⟨empty, rfl⟩)⟩
  · exact ⟨some (.ofString text), decodeFile_eq_ok_iff.mpr (.inr ⟨text, same, rfl⟩)⟩

theorem decodeBool_of_accepts (value : Json) (accepted : ∃ flag, value = .bool flag) :
    ∃ flag, decodeBool value = .ok flag := by
  obtain ⟨flag, same⟩ := accepted
  exact ⟨flag, decodeBool_eq_ok_iff.mpr same⟩

end Json

namespace Settings

open SettingKey

section Key

variable {A : Type} {name : String} {decode : Json → Decoded A} {update : List (String × Json)}

theorem key_of_absent {found : Option A} (read : key name decode update = .ok found)
    (absent : Json.field? name update = none) : found = none := by
  simpa [key, absent, eq_comm] using read

theorem key_of_present {found : Option A} (read : key name decode update = .ok found)
    {value : Json} (present : Json.field? name update = some value) :
    ∃ taken, found = some taken ∧ decode value = .ok taken := by
  simp only [key, present] at read
  cases decoded : decode value with
  | error cause => simp [decoded] at read
  | ok taken =>
    simp only [decoded, Except.ok.injEq] at read
    exact ⟨taken, read.symm, rfl⟩

theorem isSome_key {found : Option A} (read : key name decode update = .ok found) :
    found.isSome = (Json.field? name update).isSome := by
  cases present : Json.field? name update with
  | none => simp [key_of_absent read present]
  | some value =>
    obtain ⟨taken, rfl, -⟩ := key_of_present read present
    rfl

-- A decoder that takes every value of the right type fails on one of the wrong type only.
theorem wrong_of_key_eq_error {key : SettingKey} {e : SettingsError}
    (decodes : ∀ value, key.Accepts value → ∃ taken, decode value = .ok taken)
    (read : Settings.key key.name decode update = .error e) :
    e.key = key.name ∧ key.Wrong update := by
  cases present : key.value? update with
  | none => simp [Settings.key, show Json.field? key.name update = none from present] at read
  | some value =>
    simp only [Settings.key, show Json.field? key.name update = some value from present] at read
    cases decoded : decode value with
    | ok taken => simp [decoded] at read
    | error cause =>
      simp only [decoded, Except.error.injEq] at read
      refine ⟨by rw [← read], value, present, fun accepted => ?_⟩
      obtain ⟨taken, same⟩ := decodes value accepted
      cases decoded.symm.trans same

end Key

structure Updates (update : List (String × Json)) (settings changed : Settings)
    (change : SettingsChange) : Prop where
  taken : ∀ key value, value? key update = some value → Holds changed key value
  kept : ∀ key, value? key update = none → Same changed settings key
  marked : ∀ key, change.marks key = (value? key update).isSome

theorem apply_spec (settings : Settings) (update : List (String × Json)) :
    match settings.apply update with
    | .ok (changed, change) => Updates update settings changed change
    | .error e => ∃ key, e.key = name key ∧ Wrong key update := by
  unfold apply
  cases flakes : key "pyflakes_errors" (Json.decodeList Json.decodeString) update with
  | error e => exact ⟨.flakeErrors, wrong_of_key_eq_error Json.decodeStrings_of_accepts flakes⟩
  | ok flakeErrors =>
  cases style : key "pycodestyle_config" (Json.decodeOption Path.decode) update with
  | error e => exact ⟨.styleConfig, wrong_of_key_eq_error Json.decodeFile_of_accepts style⟩
  | ok styleConfig =>
  cases hover : key "help_on_hover" Json.decodeBool update with
  | error e => exact ⟨.helpOnHover, wrong_of_key_eq_error Json.decodeBool_of_accepts hover⟩
  | ok helpOnHover =>
  cases types : key "mypy_enabled" Json.decodeBool update with
  | error e => exact ⟨.typeCheck, wrong_of_key_eq_error Json.decodeBool_of_accepts types⟩
  | ok typeCheck =>
  refine ⟨fun name value present => ?_, fun name absent => ?_, fun name => ?_⟩
  · cases name with
    | flakeErrors =>
      obtain ⟨taken, rfl, decoded⟩ := key_of_present flakes present
      exact Json.decodeStrings_eq_ok_iff.mp decoded
    | styleConfig =>
      obtain ⟨taken, rfl, decoded⟩ := key_of_present style present
      exact Json.decodeFile_eq_ok_iff.mp decoded
    | helpOnHover =>
      obtain ⟨taken, rfl, decoded⟩ := key_of_present hover present
      exact Json.decodeBool_eq_ok_iff.mp decoded
    | typeCheck =>
      obtain ⟨taken, rfl, decoded⟩ := key_of_present types present
      exact Json.decodeBool_eq_ok_iff.mp decoded
  · cases name with
    | flakeErrors => simp [Same, key_of_absent flakes absent]
    | styleConfig => simp [Same, key_of_absent style absent]
    | helpOnHover => simp [Same, key_of_absent hover absent]
    | typeCheck => simp [Same, key_of_absent types absent]
  · cases name with
    | flakeErrors => exact isSome_key flakes
    | styleConfig => exact isSome_key style
    | helpOnHover => exact isSome_key hover
    | typeCheck => exact isSome_key types

theorem Updates.right {update : List (String × Json)} {settings changed : Settings}
    {change : SettingsChange} (updates : Updates update settings changed change)
    (key : SettingKey) : ¬ key.Wrong update := by
  rintro ⟨value, present, wrong⟩
  exact wrong (updates.taken key value present).accepts

theorem Updates.revision {update : List (String × Json)} {settings changed : Settings}
    {change : SettingsChange} (updates : Updates update settings changed change)
    (revision : SettingsRevision) :
    (revision.bump change).style =
        revision.style + (if (value? .styleConfig update).isSome then 1 else 0) ∧
      (revision.bump change).typeCheck =
        revision.typeCheck + (if (value? .typeCheck update).isSome then 1 else 0) := by
  rw [← updates.marked, ← updates.marked]
  simp only [SettingsRevision.bump, SettingsChange.marks]
  constructor
  · by_cases style : change.styleConfig <;> simp [style]
  · by_cases types : change.typeCheck <;> simp [types]

end Settings

end PythonAssist
