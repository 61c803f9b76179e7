import Mathlib.Data.List.Forall2
import PythonAssist.Proofs.Json.Records

set_option autoImplicit false

namespace PythonAssist

variable {A B : Type}

def Respects (decode : Json → Decoded A) (alike : Json → Json → Prop) : Prop :=
  ∀ a b, alike a b → (decode a).toOption = (decode b).toOption

theorem respects_eq (decode : Json → Decoded A) : Respects decode Eq := by
  rintro a _ rfl
  rfl

structure Slot where
  key : String
  absent : Option Json
  alike : Json → Json → Prop
  alike_self : ∀ value, alike value value

namespace Slot

def exact (key : String) (absent : Option Json) : Slot :=
  { key, absent, alike := Eq, alike_self := fun _ => rfl }

def held (slot : Slot) (fields : List (String × Json)) : Option Json :=
  (Json.field? slot.key fields).or slot.absent

def Agrees (slot : Slot) (a b : List (String × Json)) : Prop :=
  Option.Rel slot.alike (slot.held a) (slot.held b)

theorem Agrees.of_held_eq {slot : Slot} {a b : List (String × Json)}
    (same : slot.held a = slot.held b) : slot.Agrees a b := by
  rw [Agrees, same]
  cases slot.held b with
  | none => exact .none
  | some value => exact .some (slot.alike_self value)

theorem held_eq_of_agrees {key : String} {a b : List (String × Json)}
    (agree : (exact key none).Agrees a b) : Json.field? key a = Json.field? key b := by
  simp only [Agrees, held, exact, Option.or_none] at agree
  generalize Json.field? key a = first at agree ⊢
  generalize Json.field? key b = second at agree ⊢
  cases agree with
  | none => rfl
  | some same => rw [same]

end Slot

inductive Record (slots : List Slot) : Json → Json → Prop where
  | same (value : Json) : Record slots value value
  | fields {a b : List (String × Json)} (first : (a.map Prod.fst).Nodup)
      (second : (b.map Prod.fst).Nodup) (agree : ∀ slot ∈ slots, slot.Agrees a b) :
      Record slots (.object a) (.object b)

namespace Record

variable {slots : List Slot} {fields : List (String × Json)}

theorem of_perm {others : List (String × Json)} (perm : fields.Perm others)
    (distinct : (fields.map Prod.fst).Nodup) : Record slots (.object fields) (.object others) := by
  have distinct' := (perm.map Prod.fst).nodup_iff.mp distinct
  refine .fields distinct distinct' fun slot _ => Slot.Agrees.of_held_eq ?_
  have same : Json.field? slot.key fields = Json.field? slot.key others :=
    Option.ext fun value => by
      rw [Json.field?_iff_mem distinct, Json.field?_iff_mem distinct', perm.mem_iff]
  rw [Slot.held, Slot.held, same]

theorem of_unknown {key : String} (value : Json) (distinct : (fields.map Prod.fst).Nodup)
    (fresh : key ∉ fields.map Prod.fst) (unknown : key ∉ slots.map Slot.key) :
    Record slots (.object fields) (.object ((key, value) :: fields)) := by
  refine .fields distinct (List.nodup_cons.mpr ⟨fresh, distinct⟩) fun slot member =>
    Slot.Agrees.of_held_eq ?_
  have other : key ≠ slot.key := fun same => unknown (same ▸ List.mem_map_of_mem member)
  rw [Slot.held, Slot.held, Json.field?, if_neg other]

theorem of_absent {slot : Slot} {value : Json} (distinct : (fields.map Prod.fst).Nodup)
    (unique : (slots.map Slot.key).Nodup) (known : slot ∈ slots) (absent : slot.absent = some value)
    (fresh : slot.key ∉ fields.map Prod.fst) :
    Record slots (.object fields) (.object ((slot.key, value) :: fields)) := by
  refine .fields distinct (List.nodup_cons.mpr ⟨fresh, distinct⟩) fun other member =>
    Slot.Agrees.of_held_eq ?_
  rw [Slot.held, Slot.held, Json.field?]
  split
  next same =>
    obtain rfl : slot = other := List.inj_on_of_nodup_map unique known member same
    rw [Json.field?_eq_none_iff.mpr fresh, absent]
    rfl
  next => rfl

end Record

inductive Items (alike : Json → Json → Prop) : Json → Json → Prop where
  | same (value : Json) : Items alike value value
  | items {a b : List Json} (each : List.Forall₂ alike a b) : Items alike (.array a) (.array b)

def Slot.records (key : String) (slots : List Slot) : Slot :=
  { key, absent := some (.array []), alike := Items (Record slots), alike_self := .same }

theorem toOption_bind (x : Decoded A) (f : A → Decoded B) :
    (x.bind f).toOption = x.toOption.bind fun a => (f a).toOption := by
  cases x <;> rfl

theorem toOption_map (x : Decoded A) (f : A → B) : (x.map f).toOption = x.toOption.map f := by
  cases x <;> rfl

theorem eq_ok_of_toOption {x : Decoded A} {value : A} (read : x.toOption = some value) :
    x = .ok value := by
  cases x with
  | error => cases read
  | ok => exact congrArg Except.ok (Option.some.inj read)

theorem toOption_mapM_cons {X : Type} (decode : X → Decoded A) (item : X) (rest : List X) :
    ((item :: rest).mapM decode).toOption =
      (decode item).toOption.bind fun first =>
        (rest.mapM decode).toOption.map fun others => first :: others := by
  rw [List.mapM_cons]
  cases decode item with
  | error => rfl
  | ok => cases rest.mapM decode <;> rfl

theorem toOption_mapM {X : Type} {decode : X → Decoded A} {alike : X → X → Prop}
    (respects : ∀ a b, alike a b → (decode a).toOption = (decode b).toOption)
    {a b : List X} (each : List.Forall₂ alike a b) :
    (a.mapM decode).toOption = (b.mapM decode).toOption := by
  induction each with
  | nil => rfl
  | cons first _ ih => rw [toOption_mapM_cons, toOption_mapM_cons, respects _ _ first, ih]

theorem mapM_eq_ok_iff {X : Type} {decode : X → Decoded A} {items : List X} {values : List A} :
    items.mapM decode = .ok values ↔
      List.Forall₂ (fun item value => decode item = .ok value) items values := by
  induction items generalizing values with
  | nil => cases values <;> simp [pure, Except.pure]
  | cons item rest ih =>
    rw [List.mapM_cons, List.forall₂_cons_left_iff]
    cases first : decode item with
    | error cause => simp [bind, Except.bind]
    | ok value =>
      cases later : rest.mapM decode with
      | error cause => simp [bind, Except.bind, ← ih, later]
      | ok others => simp [bind, Except.bind, ← ih, later, pure, Except.pure, eq_comm]

theorem respects_items {decode : Json → Decoded A} {alike : Json → Json → Prop}
    (respects : Respects decode alike) : Respects (Json.decodeList decode) (Items alike) := by
  rintro _ _ (_ | each)
  · rfl
  · exact toOption_mapM respects each

namespace Reader

structure Takes (reader : Reader A) (slots : List Slot) : Prop where
  checked : reader.Checked
  agrees : ∀ a b, (∀ slot ∈ slots, slot.Agrees a b) →
    (reader.build (sourceOf a)).toOption = (reader.build (sourceOf b)).toOption

theorem Takes.map (f : A → B) {x : Reader A} {slots : List Slot} (takes : x.Takes slots) :
    (f <$> x).Takes slots := by
  refine ⟨takes.checked.map f, fun a b agree => ?_⟩
  rw [build_map, build_map, toOption_map, toOption_map, takes.agrees a b agree]

theorem Takes.seq {f : Reader (A → B)} {x : Reader A} {slots more : List Slot}
    (first : f.Takes slots) (second : x.Takes more) : (f <*> x).Takes (slots ++ more) := by
  refine ⟨first.checked.seq second.checked, fun a b agree => ?_⟩
  have front := first.agrees a b fun slot member => agree slot (List.mem_append_left _ member)
  have back := second.agrees a b fun slot member => agree slot (List.mem_append_right _ member)
  simp only [build_seq, toOption_bind, toOption_map, front, back]

theorem takes_required {decode : Json → Decoded A} (slot : Slot) (needed : slot.absent = none)
    (respects : Respects decode slot.alike) : (required slot.key decode).Takes [slot] := by
  refine ⟨checked_required _ _, fun a b agree => ?_⟩
  have rel : slot.Agrees a b := agree slot List.mem_cons_self
  simp only [Slot.Agrees, Slot.held, needed, Option.or_none] at rel
  rw [build_required, build_required]
  generalize Json.field? slot.key a = first at rel ⊢
  generalize Json.field? slot.key b = second at rel ⊢
  cases rel with
  | none => rfl
  | some alike => exact respects _ _ alike

theorem takes_withDefault {decode : Json → Decoded A} {default : A} (slot : Slot) {absent : Json}
    (stands : slot.absent = some absent) (decoded : decode absent = .ok default)
    (respects : Respects decode slot.alike) :
    (withDefault slot.key decode default).Takes [slot] := by
  have built (fields : List (String × Json)) : ∃ value, slot.held fields = some value ∧
      (withDefault slot.key decode default).build (sourceOf fields) = decode value := by
    rw [build_withDefault, Slot.held, stands]
    cases Json.field? slot.key fields with
    | none => exact ⟨absent, rfl, decoded.symm⟩
    | some value => exact ⟨value, rfl, rfl⟩
  refine ⟨checked_withDefault _ _ _, fun a b agree => ?_⟩
  have rel : slot.Agrees a b := agree slot List.mem_cons_self
  obtain ⟨first, firstHeld, firstBuilt⟩ := built a
  obtain ⟨second, secondHeld, secondBuilt⟩ := built b
  rw [Slot.Agrees, firstHeld, secondHeld] at rel
  cases rel with
  | some alike => rw [firstBuilt, secondBuilt, respects _ _ alike]

-- A function of the field may count values as one that the field itself tells apart.
theorem takes_map_required {decode : Json → Decoded A} (f : A → B) (slot : Slot)
    (needed : slot.absent = none)
    (respects : Respects (fun value => (decode value).map f) slot.alike) :
    (f <$> required slot.key decode).Takes [slot] := by
  have built (source : Source) : (f <$> required slot.key decode).build source =
      (required slot.key fun value => (decode value).map f).build source := by
    rw [build_map]
    simp only [required]
    cases source.find slot.key <;> rfl
  refine ⟨(checked_required _ _).map f, fun a b agree => ?_⟩
  rw [built, built]
  exact (takes_required slot needed respects).agrees a b agree

theorem takes_exact (key : String) (decode : Json → Decoded A) :
    (required key decode).Takes [.exact key none] :=
  takes_required (.exact key none) rfl (respects_eq decode)

theorem takes_defaulted (key : String) (decode : Json → Decoded A) {default : A} (absent : Json)
    (decoded : decode absent = .ok default) :
    (withDefault key decode default).Takes [.exact key (some absent)] :=
  takes_withDefault (.exact key (some absent)) rfl decoded (respects_eq decode)

theorem Takes.respects {reader : Reader A} {slots : List Slot} (takes : reader.Takes slots)
    (what : String) : Respects (reader.decode what) (Record slots) := by
  rintro _ _ (_ | ⟨first, second, agree⟩)
  · rfl
  · simp only [decode]
    rw [toOption_ofObject takes.checked first, toOption_ofObject takes.checked second,
      takes.agrees _ _ agree]

end Reader

structure RoundTrips (decode : Json → Decoded A) (encode : A → Json) (fits : A → Prop)
    (slots : Json → List Slot) : Prop where
  back : ∀ value, fits value → decode (encode value) = .ok value
  alike : ∀ a b, Record (slots a) a b → (decode a).toOption = (decode b).toOption
  reordered : ∀ fields others, (fields.map Prod.fst).Nodup → fields.Perm others →
    (decode (.object fields)).toOption = (decode (.object others)).toOption
  unknown : ∀ fields key value, (fields.map Prod.fst).Nodup → key ∉ fields.map Prod.fst →
    key ∉ (slots (.object fields)).map Slot.key →
    (decode (.object ((key, value) :: fields))).toOption = (decode (.object fields)).toOption
  absent : ∀ fields slot value, (fields.map Prod.fst).Nodup → slot ∈ slots (.object fields) →
    slot.absent = some value → slot.key ∉ fields.map Prod.fst →
    (decode (.object fields)).toOption =
      (decode (.object ((slot.key, value) :: fields))).toOption

theorem roundTrips_of {decode : Json → Decoded A} {encode : A → Json} {fits : A → Prop}
    {slots : Json → List Slot} (unique : ∀ value, ((slots value).map Slot.key).Nodup)
    (back : ∀ value, fits value → decode (encode value) = .ok value)
    (alike : ∀ a b, Record (slots a) a b → (decode a).toOption = (decode b).toOption) :
    RoundTrips decode encode fits slots where
  back := back
  alike := alike
  reordered _ _ distinct perm := alike _ _ (.of_perm perm distinct)
  unknown _ _ value distinct fresh unknown :=
    (alike _ _ (.of_unknown value distinct fresh unknown)).symm
  absent _ _ _ distinct known stands fresh :=
    alike _ _ (.of_absent distinct (unique _) known stands fresh)

theorem Reader.Takes.roundTrips {reader : Reader A} {slots : List Slot} (takes : reader.Takes slots)
    {what : String} {encode : A → Json} {fits : A → Prop} (unique : (slots.map Slot.key).Nodup)
    (back : ∀ value, fits value → reader.decode what (encode value) = .ok value) :
    RoundTrips (reader.decode what) encode fits fun _ => slots :=
  roundTrips_of (fun _ => unique) back (takes.respects what)

end PythonAssist
