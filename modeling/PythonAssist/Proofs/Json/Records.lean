import Mathlib.Data.List.Nodup
import PythonAssist.Json.Decode

set_option autoImplicit false

namespace PythonAssist

variable {A B : Type}

theorem Json.field?_of_mem {fields : List (String × Json)} {key : String} {value : Json}
    (distinct : (fields.map Prod.fst).Nodup) (member : (key, value) ∈ fields) :
    Json.field? key fields = some value := by
  induction fields with
  | nil => cases member
  | cons field rest ih =>
    obtain ⟨fresh, distinct⟩ := List.nodup_cons.mp distinct
    rcases List.mem_cons.mp member with rfl | later
    · rw [Json.field?, if_pos rfl]
    · have other : field.1 ≠ key := fun same =>
        fresh (same ▸ List.mem_map_of_mem (f := Prod.fst) later)
      rw [Json.field?, if_neg other, ih distinct later]

theorem Json.mem_of_field? {fields : List (String × Json)} {key : String} {value : Json}
    (found : Json.field? key fields = some value) : (key, value) ∈ fields := by
  induction fields with
  | nil => cases found
  | cons field rest ih =>
    obtain ⟨other, held⟩ := field
    rw [Json.field?] at found
    split at found
    next same =>
      cases found
      exact same ▸ List.mem_cons_self
    next => exact List.mem_cons_of_mem _ (ih found)

theorem Json.field?_insert (key other : String) (value : Json) (fields : List (String × Json)) :
    Json.field? key (Json.insert other value fields) =
      if other = key then some value else Json.field? key fields := by
  induction fields with
  | nil => rfl
  | cons field rest ih =>
    obtain ⟨held, kept⟩ := field
    rw [Json.insert]
    split
    next same =>
      subst same
      simp only [Json.field?]
      split <;> rfl
    next apart =>
      split
      next => rfl
      next =>
        rw [Json.field?, Json.field?, ih]
        split
        next same => rw [if_neg (same ▸ apart)]
        next => rfl

theorem Json.field?_iff_mem {fields : List (String × Json)} {key : String} {value : Json}
    (distinct : (fields.map Prod.fst).Nodup) :
    Json.field? key fields = some value ↔ (key, value) ∈ fields :=
  ⟨mem_of_field?, field?_of_mem distinct⟩

theorem Json.field?_eq_none_iff {fields : List (String × Json)} {key : String} :
    Json.field? key fields = none ↔ key ∉ fields.map Prod.fst := by
  induction fields with
  | nil => simp [Json.field?]
  | cons field rest ih =>
    obtain ⟨other, held⟩ := field
    rw [Json.field?]
    split
    next same => simp [same]
    next different => simp [ih, Ne.symm different]

theorem Json.decodeOption_of_solid {decode : Json → Decoded A} {value : Json}
    (solid : value.isNull = false) : decodeOption decode value = (decode value).map some := by
  cases value with
  | null => cases solid
  | _ => rfl

theorem Json.decodeOption_option {decode : Json → Decoded A} {encode : A → Json} {value : Option A}
    (solid : ∀ a, (encode a).isNull = false) (back : ∀ a ∈ value, decode (encode a) = .ok a) :
    decodeOption decode (option encode value) = .ok value := by
  cases value with
  | none => rfl
  | some a => rw [option, decodeOption_of_solid (solid a), back a rfl, Except.map]

namespace Reader

def sourceOf (fields : List (String × Json)) : Source :=
  { find := fun name => Json.field? name fields, missing := .missingField }

@[simp] theorem build_map (f : A → B) (x : Reader A) (source : Source) :
    (f <$> x).build source = (x.build source).map f := rfl

@[simp] theorem build_seq (f : Reader (A → B)) (x : Reader A) (source : Source) :
    (f <*> x).build source = (f.build source).bind fun g => (x.build source).map g := by
  simp only [Seq.seq, andThen]
  cases f.build source with
  | error => rfl
  | ok g => cases x.build source <;> rfl

theorem exists_of_build_map {f : A → B} {x : Reader A} {source : Source} {value : B}
    (built : (f <$> x).build source = .ok value) :
    ∃ a, x.build source = .ok a ∧ value = f a := by
  rw [build_map] at built
  cases inner : x.build source with
  | error => rw [inner] at built; cases built
  | ok a =>
    rw [inner] at built
    cases built
    exact ⟨a, rfl, rfl⟩

theorem exists_of_build_seq {f : Reader (A → B)} {x : Reader A} {source : Source} {value : B}
    (built : (f <*> x).build source = .ok value) :
    ∃ g a, f.build source = .ok g ∧ x.build source = .ok a ∧ value = g a := by
  rw [build_seq] at built
  cases front : f.build source with
  | error => rw [front] at built; cases built
  | ok g =>
    cases back : x.build source with
    | error => rw [front, back] at built; cases built
    | ok a =>
      rw [front, back] at built
      cases built
      exact ⟨g, a, rfl, rfl, rfl⟩

@[simp] theorem build_required (name : String) (decode : Json → Decoded A)
    (fields : List (String × Json)) :
    (required name decode).build (sourceOf fields) =
      ((Json.field? name fields).map decode).getD (.error (.missingField name)) := by
  simp only [required, sourceOf]
  cases Json.field? name fields <;> rfl

@[simp] theorem build_withDefault (name : String) (decode : Json → Decoded A) (default : A)
    (fields : List (String × Json)) :
    (withDefault name decode default).build (sourceOf fields) =
      ((Json.field? name fields).map decode).getD (.ok default) := by
  simp only [withDefault, sourceOf]
  cases Json.field? name fields <;> rfl

@[simp] theorem build_optional (name : String) (decode : Json → Decoded A)
    (fields : List (String × Json)) :
    (optional name decode).build (sourceOf fields) =
      ((Json.field? name fields).map (Json.decodeOption decode)).getD (.ok none) := by
  simp only [optional, sourceOf]
  cases Json.field? name fields <;> rfl

theorem exists_build_of_decode {reader : Reader A} {what : String} {value : Json} {result : A}
    (decoded : reader.decode what value = .ok result) :
    ∃ source, reader.build source = .ok result := by
  cases value with
  | object fields =>
    rw [decode, ofObject] at decoded
    cases checked : fields.forM fun field => fieldCheck reader.fields field.1 field.2 with
    | error => rw [checked] at decoded; cases decoded
    | ok =>
      rw [checked] at decoded
      exact ⟨_, decoded⟩
  | array items =>
    rw [decode] at decoded
    cases built : reader.ofItems what items with
    | error => rw [built] at decoded; cases decoded
    | ok found =>
      rw [built] at decoded
      dsimp only [bind, Except.bind] at decoded
      split at decoded
      next => cases decoded
      next =>
        cases decoded
        exact ⟨_, built⟩
  | _ => cases decoded

def Checked (reader : Reader A) : Prop :=
  ∀ source value, reader.build source = .ok value →
    ∀ field ∈ reader.fields, ∀ found, source.find field.1 = some found → field.2 found = .ok ()

theorem check_eq_ok {decode : Json → Decoded A} {found : Json} {value : A}
    (decoded : decode found = .ok value) : check decode found = .ok () := by
  rw [check, decoded]
  rfl

theorem Checked.map (f : A → B) {x : Reader A} (checked : x.Checked) : (f <$> x).Checked := by
  intro source value built
  obtain ⟨a, inner, -⟩ := exists_of_build_map built
  exact checked source a inner

theorem Checked.seq {f : Reader (A → B)} {x : Reader A} (first : f.Checked) (second : x.Checked) :
    (f <*> x).Checked := by
  intro source value built field member
  obtain ⟨g, a, front, back, -⟩ := exists_of_build_seq built
  rcases List.mem_append.mp member with inFirst | inSecond
  · exact first source g front field inFirst
  · exact second source a back field inSecond

theorem checked_required (name : String) (decode : Json → Decoded A) :
    (required name decode).Checked := by
  intro source value built field member found there
  obtain rfl := List.mem_singleton.mp member
  simp only [required, there] at built
  exact check_eq_ok built

theorem checked_withDefault (name : String) (decode : Json → Decoded A) (default : A) :
    (withDefault name decode default).Checked := by
  intro source value built field member found there
  obtain rfl := List.mem_singleton.mp member
  simp only [withDefault, there] at built
  exact check_eq_ok built

theorem checked_optional (name : String) (decode : Json → Decoded A) :
    (optional name decode).Checked := by
  intro source value built field member found there
  obtain rfl := List.mem_singleton.mp member
  simp only [optional, there] at built
  exact check_eq_ok built

theorem fieldCheck_eq_ok {checks : List (String × (Json → Decoded Unit))} {key : String}
    {found : Json} (each : ∀ field ∈ checks, field.1 = key → field.2 found = .ok ()) :
    fieldCheck checks key found = .ok () := by
  induction checks with
  | nil => rfl
  | cons field rest ih =>
    rw [fieldCheck]
    split
    next same => exact each field List.mem_cons_self same
    next => exact ih fun other member => each other (List.mem_cons_of_mem _ member)

theorem forM_eq_ok {fields : List A} {step : A → Decoded Unit}
    (each : ∀ field ∈ fields, step field = .ok ()) : fields.forM step = .ok () := by
  induction fields with
  | nil => rfl
  | cons field rest ih =>
    have later := ih fun other member => each other (List.mem_cons_of_mem _ member)
    rw [List.forM, each field List.mem_cons_self]
    exact later

theorem ofObject_of_build {reader : Reader A} (checked : reader.Checked)
    {fields : List (String × Json)} (distinct : (fields.map Prod.fst).Nodup) {value : A}
    (built : reader.build (sourceOf fields) = .ok value) : reader.ofObject fields = .ok value := by
  have passed : (fields.forM fun field => fieldCheck reader.fields field.1 field.2) = .ok () :=
    forM_eq_ok fun field member => fieldCheck_eq_ok fun known listed same =>
      checked _ value built known listed field.2 (Json.field?_of_mem distinct (same ▸ member))
  rw [ofObject, passed]
  exact built

-- The order in which fields are checked only decides which error is reported.
theorem toOption_ofObject {reader : Reader A} (checked : reader.Checked)
    {fields : List (String × Json)} (distinct : (fields.map Prod.fst).Nodup) :
    (reader.ofObject fields).toOption = (reader.build (sourceOf fields)).toOption := by
  cases built : reader.build (sourceOf fields) with
  | ok value => rw [ofObject_of_build checked distinct built]
  | error cause =>
    have stuck : (reader.ofObject fields).toOption = none := by
      rw [ofObject]
      cases fields.forM fun field => fieldCheck reader.fields field.1 field.2 with
      | error => rfl
      | ok => exact congrArg Except.toOption built
    rw [stuck]
    rfl

end Reader

end PythonAssist
