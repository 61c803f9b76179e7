import Mathlib.Data.List.TakeWhile
import Mathlib.Data.String.Basic
import Mathlib.Tactic.SplitIfs
import PythonAssist.Json.Reader
import PythonAssist.Json.Writer

set_option autoImplicit false

namespace PythonAssist.Json

theorem hex4?_control {n : Nat} (control : n < 32) :
    hex4? '0' '0' (hexDigit (n / 16)) (hexDigit n) = some n := by
  decide +revert

def inFront (c : Char) (rest : List Char) : Option (List Char × List Char) :=
  (stringBody rest).map fun found => (c :: found.1, found.2)

theorem stringBody_escape {letter c : Char} (known : escape? letter = some c) (rest : List Char) :
    stringBody ('\\' :: letter :: rest) = inFront c rest := by
  have short : letter ≠ 'u' := by
    rintro rfl
    cases known
  rw [stringBody.eq_4 _ _ (by grind), known, inFront]
  cases stringBody rest <;> rfl

theorem stringBody_control {n : Nat} (control : n < 32) (rest : List Char) :
    stringBody ('\\' :: 'u' :: '0' :: '0' :: hexDigit (n / 16) :: hexDigit n :: rest) =
      inFront (Char.ofNat n) rest := by
  have trailing : isTrailing n = false := by simp [isTrailing]; omega
  have leading : isLeading n = false := by simp [isLeading]; omega
  rw [stringBody, hex4?_control control, inFront]
  simp only [trailing, leading, Bool.false_eq_true, if_false]
  cases stringBody rest <;> rfl

theorem stringBody_plain {c : Char} (quote : c ≠ '"') (backslash : c ≠ '\\') (plain : 32 ≤ c.toNat)
    (rest : List Char) : stringBody (c :: rest) = inFront c rest := by
  rw [stringBody.eq_5 _ _ quote (by grind) (by grind), if_neg (by omega), inFront]
  cases stringBody rest <;> rfl

theorem stringBody_escapeChar (c : Char) (rest : List Char) :
    stringBody (escapeChar c ++ rest) = inFront c rest := by
  have named {n : Nat} (code : c.toNat = n) : Char.ofNat n = c := by rw [← code, Char.ofNat_toNat]
  unfold escapeChar
  split_ifs with quote backslash newline carriage tab backspace feed control
  · exact stringBody_escape (by rw [quote]; rfl) rest
  · exact stringBody_escape (by rw [backslash]; rfl) rest
  · exact stringBody_escape (by rw [newline]; rfl) rest
  · exact stringBody_escape (by rw [carriage]; rfl) rest
  · exact stringBody_escape (by rw [tab]; rfl) rest
  · exact stringBody_escape (by rw [← named backspace]; rfl) rest
  · exact stringBody_escape (by rw [← named feed]; rfl) rest
  · have read := stringBody_control control rest
    rwa [named rfl] at read
  · exact stringBody_plain quote backslash (Nat.le_of_not_lt control) rest

theorem stringBody_quoted (text : List Char) (rest : List Char) :
    stringBody (text.flatMap escapeChar ++ '"' :: rest) = some (text, rest) := by
  induction text with
  | nil => simp [stringBody]
  | cons c text ih =>
    rw [List.flatMap_cons, List.append_assoc, stringBody_escapeChar, inFront, ih]
    rfl

def Ends (rest : List Char) : Prop :=
  ∀ c ∈ rest.head?, c.isDigit = false ∧ c ≠ '.' ∧ c ≠ 'e' ∧ c ≠ 'E'

def digitValues (text : List Char) : List Nat := text.map fun c => c.toNat - 48

theorem digitsOf_append {front rest : List Char} (digits : ∀ c ∈ front, c.isDigit = true)
    (ends : Ends rest) : digitsOf (front ++ rest) = (digitValues front, rest) := by
  have taken : (front ++ rest).takeWhile Char.isDigit = front := by
    rw [List.takeWhile_append_of_pos digits]
    cases rest with
    | nil => simp
    | cons c rest => simp [(ends c rfl).1]
  rw [digitsOf, taken, List.drop_left]
  rfl

theorem le_foldl_digits (digits : List Nat) (n : Nat) :
    n ≤ digits.foldl (fun n d => n * 10 + d) n := by
  induction digits generalizing n with
  | nil => exact le_refl n
  | cons d rest ih => exact le_trans (by omega) (ih (n * 10 + d))

theorem takeDigits_eq (start taken : Nat) (digits : List Nat)
    (below : digits.foldl (fun n d => n * 10 + d) start < wordLimit) :
    takeDigits start taken digits =
      { significand := digits.foldl (fun n d => n * 10 + d) start
        taken := taken + digits.length, left := [] } := by
  induction digits generalizing start taken with
  | nil => rfl
  | cons d rest ih =>
    have fits : start * 10 + d < wordLimit := lt_of_le_of_lt (le_foldl_digits rest _) below
    rw [takeDigits, if_pos fits, ih _ _ below, List.length_cons, List.foldl_cons]
    congr 1
    omega

theorem natOfDigits_toDigits (n : Nat) : natOfDigits (digitValues (Nat.toDigits 10 n)) = n := by
  have digits := Nat.ofDigitChars_ten_toDigits (n := n)
  rw [Nat.ofDigitChars_eq_foldl] at digits
  simpa [natOfDigits, digitValues, List.foldl_map, Nat.mul_comm] using digits

theorem toDigits_leading {n : Nat} (positive : 0 < n) :
    ∃ c rest, Nat.toDigits 10 n = c :: rest ∧ c.toNat - 48 ≠ 0 := by
  induction n using Nat.strong_induction_on with
  | _ n ih =>
    by_cases small : n < 10
    · have single : ∀ d < 10, 0 < d → d.digitChar.toNat - 48 ≠ 0 := by decide
      exact ⟨n.digitChar, [], Nat.toDigits_of_lt_base small, single n small positive⟩
    · obtain ⟨c, rest, digits, leading⟩ := ih (n / 10) (by omega) (by omega)
      refine ⟨c, rest ++ [(n % 10).digitChar], ?_, leading⟩
      rw [Nat.toDigits_of_base_le (by decide) (by omega), digits, List.cons_append]

theorem numberBody_toDigits (negative : Bool) {n : Nat} (below : n < wordLimit) {rest : List Char}
    (ends : Ends rest) :
    numberBody negative (Nat.toDigits 10 n ++ rest) = some (integerNumber negative n, rest) := by
  have digits : ∀ c ∈ Nat.toDigits 10 n, c.isDigit = true := fun c member =>
    Nat.isDigit_of_mem_toDigits (by decide) (by decide) member
  have value := natOfDigits_toDigits n
  have front : takeDigits 0 0 (digitValues (Nat.toDigits 10 n)) =
      { significand := n, taken := 0 + (digitValues (Nat.toDigits 10 n)).length, left := [] } := by
    rw [natOfDigits] at value
    rw [takeDigits_eq 0 0 _ (by rwa [value]), value]
  have canonical : ((digitValues (Nat.toDigits 10 n)).isEmpty ||
      ((digitValues (Nat.toDigits 10 n)).head? == some 0 &&
        (digitValues (Nat.toDigits 10 n)).length != 1)) = false := by
    rcases Nat.eq_zero_or_pos n with rfl | positive
    · rfl
    · obtain ⟨c, others, written, leading⟩ := toDigits_leading positive
      simp [written, digitValues, leading]
  rw [numberBody, digitsOf_append digits ends]
  simp only [canonical, front, Bool.false_eq_true, if_false]
  cases rest with
  | nil => rfl
  | cons c rest =>
    obtain ⟨-, point, lower, upper⟩ := ends c rfl
    split
    next => grind
    next same =>
      obtain ⟨rfl, rfl⟩ := List.cons.inj same
      simp [lower, upper]
      rfl
    next => grind

theorem toDigits_begins (n : Nat) :
    ∃ c rest, Nat.toDigits 10 n = c :: rest ∧ c.isDigit = true := by
  cases written : Nat.toDigits 10 n with
  | nil => exact absurd written Nat.toDigits_ne_nil
  | cons c rest =>
    have member : c ∈ Nat.toDigits 10 n := written ▸ List.mem_cons_self
    exact ⟨c, rest, rfl, Nat.isDigit_of_mem_toDigits (by decide) (by decide) member⟩

theorem ne_of_isDigit {c other : Char} (digit : c.isDigit = true) (none : other.isDigit = false) :
    c ≠ other := by
  rintro rfl
  simp [digit] at none

theorem not_isBlank_of_isDigit {c : Char} (digit : c.isDigit = true) : isBlank c = false := by
  simp [isBlank, ne_of_isDigit digit]

theorem value_integer {amount : Int} (low : -9223372036854775808 ≤ amount)
    (high : amount < wordLimit) (fuel depth : Nat) {rest : List Char} (ends : Ends rest) :
    value (fuel + 1) depth (integerText amount ++ rest) =
      some (.number (.integer amount), rest) := by
  have below : amount.natAbs < wordLimit := by
    simp only [wordLimit] at high ⊢
    omega
  unfold integerText
  split
  next negative =>
    have whole : integerNumber true amount.natAbs = .integer amount := by
      rw [integerNumber, if_neg (by decide), if_neg (by omega)]
      congr 1
      omega
    simp [value, skipBlank, isBlank, numberBody_toDigits true below ends, whole]
  next positive =>
    have whole : integerNumber false amount.natAbs = .integer amount := by
      rw [integerNumber, if_pos (by decide)]
      congr 1
      omega
    have body := numberBody_toDigits false below ends
    obtain ⟨c, others, written, digit⟩ := toDigits_begins amount.natAbs
    rw [written, List.cons_append] at body
    rw [written, List.cons_append, value, skipBlank,
      List.dropWhile_cons_of_neg (by simp [not_isBlank_of_isDigit digit])]
    simp [ne_of_isDigit digit, digit, body, whole]

inductive Whole : Nat → Json → Prop where
  | null {brackets : Nat} : Whole brackets .null
  | bool {brackets : Nat} (value : Bool) : Whole brackets (.bool value)
  | integer {brackets : Nat} {value : Int} (low : -9223372036854775808 ≤ value)
      (high : value < wordLimit) : Whole brackets (.integer value)
  | string {brackets : Nat} (value : String) : Whole brackets (.string value)
  | array {brackets : Nat} {items : List Json} (each : ∀ item ∈ items, Whole brackets item) :
      Whole (brackets + 1) (.array items)
  | object {brackets : Nat} {fields : List (String × Json)}
      (each : ∀ field ∈ fields, Whole brackets field.2) : Whole (brackets + 1) (.object fields)

theorem Whole.begins {brackets : Nat} {value : Json} (whole : Whole brackets value) :
    ∃ c rest, chars value = c :: rest ∧ isBlank c = false ∧ c ≠ ']' := by
  cases whole with
  | null => exact ⟨'n', _, rfl, by decide⟩
  | bool value =>
    cases value
    · exact ⟨'f', _, rfl, by decide⟩
    · exact ⟨'t', _, rfl, by decide⟩
  | string => exact ⟨'"', _, rfl, by decide⟩
  | array => exact ⟨'[', _, rfl, by decide⟩
  | object => exact ⟨'\x7b', _, rfl, by decide⟩
  | @integer _ amount low high =>
    have written : chars (.integer amount) = integerText amount := rfl
    rw [written]
    unfold integerText
    split
    next => exact ⟨'-', _, rfl, by decide⟩
    next =>
      obtain ⟨c, rest, digits, digit⟩ := toDigits_begins amount.natAbs
      exact ⟨c, rest, digits, not_isBlank_of_isDigit digit, ne_of_isDigit digit (by decide)⟩

theorem skipBlank_of_begins {c : Char} (solid : isBlank c = false) (rest : List Char) :
    skipBlank (c :: rest) = c :: rest :=
  List.dropWhile_cons_of_neg (by simp [solid])

theorem ends_comma (rest : List Char) : Ends (',' :: rest) := by
  rintro c ⟨⟩
  decide

theorem ends_bracket (rest : List Char) : Ends (']' :: rest) := by
  rintro c ⟨⟩
  decide

theorem ends_brace (rest : List Char) : Ends ('\x7d' :: rest) := by
  rintro c ⟨⟩
  decide

def Recovered (brackets : Nat) (v : Json) : Prop :=
  ∀ fuel depth rest, (chars v).length ≤ fuel → brackets < depth → Ends rest →
    value fuel depth (chars v ++ rest) = some (v, rest)

theorem items_itemChars {brackets : Nat} {first : Json} {others : List Json}
    (each : ∀ item ∈ first :: others, Recovered brackets item)
    (fuel depth : Nat) (enough : (itemChars (first :: others)).length < fuel)
    (shallow : brackets < depth) (rest : List Char) :
    items fuel depth (itemChars (first :: others) ++ ']' :: rest) =
      some (first :: others, rest) := by
  induction others generalizing first fuel with
  | nil =>
    obtain ⟨fuel, rfl⟩ : ∃ n, fuel = n + 1 := ⟨fuel - 1, by omega⟩
    have found := each first List.mem_cons_self fuel depth (']' :: rest)
      (by simp only [itemChars] at enough; omega) shallow (ends_bracket rest)
    simp [items, itemChars, found, skipBlank_of_begins (c := ']') rfl]
  | cons next others ih =>
    obtain ⟨fuel, rfl⟩ : ∃ n, fuel = n + 1 := ⟨fuel - 1, by omega⟩
    simp only [itemChars, List.length_append, List.length_cons] at enough
    have found := each first List.mem_cons_self fuel depth
      (',' :: (itemChars (next :: others) ++ ']' :: rest)) (by omega) shallow (ends_comma _)
    have later := ih (fun item member => each item (List.mem_cons_of_mem _ member)) fuel (by omega)
    simp [items, itemChars, found, skipBlank_of_begins (c := ',') rfl, later]

theorem fields_fieldChars {brackets : Nat} {first : String × Json} {others : List (String × Json)}
    (each : ∀ field ∈ first :: others, Recovered brackets field.2)
    (fuel depth : Nat) (enough : (fieldChars (first :: others)).length < fuel)
    (shallow : brackets < depth) (rest : List Char) :
    fields fuel depth (fieldChars (first :: others) ++ '\x7d' :: rest) =
      some (first :: others, rest) := by
  induction others generalizing first fuel with
  | nil =>
    obtain ⟨fuel, rfl⟩ : ∃ n, fuel = n + 1 := ⟨fuel - 1, by omega⟩
    simp only [fieldChars, List.length_append, List.length_cons] at enough
    have found := each first List.mem_cons_self fuel depth ('\x7d' :: rest)
      (by omega) shallow (ends_brace rest)
    simp [fields, fieldChars, quoted, skipBlank_of_begins (c := '"') rfl, stringBody_quoted,
      skipBlank_of_begins (c := ':') rfl, found, skipBlank_of_begins (c := '\x7d') rfl]
  | cons next others ih =>
    obtain ⟨fuel, rfl⟩ : ∃ n, fuel = n + 1 := ⟨fuel - 1, by omega⟩
    simp only [fieldChars, List.length_append, List.length_cons] at enough
    have found := each first List.mem_cons_self fuel depth
      (',' :: (fieldChars (next :: others) ++ '\x7d' :: rest)) (by omega) shallow (ends_comma _)
    have later := ih (fun field member => each field (List.mem_cons_of_mem _ member)) fuel
      (by omega)
    simp [fields, fieldChars, quoted, skipBlank_of_begins (c := '"') rfl, stringBody_quoted,
      skipBlank_of_begins (c := ':') rfl, found, skipBlank_of_begins (c := ',') rfl, later]

theorem value_bracket {c : Char} (solid : isBlank c = false) (inside : c ≠ ']') (fuel depth : Nat)
    (rest : List Char) :
    value (fuel + 1) (depth + 2) ('[' :: c :: rest) =
      (items fuel (depth + 1) (c :: rest)).map fun found => (.array found.1, found.2) := by
  simp only [value, skipBlank_of_begins (c := '[') rfl, skipBlank_of_begins solid, Char.reduceEq,
    Char.reduceIsDigit, Bool.false_eq_true, if_true, if_false]
  split
  next same => exact absurd (List.cons.inj same).1 inside
  next => cases items fuel (depth + 1) (c :: rest) <;> rfl

theorem Whole.recovered_of {brackets : Nat} {v : Json} (whole : Whole brackets v)
    (step : ∀ fuel depth rest, (chars v).length ≤ fuel + 1 → brackets < depth → Ends rest →
      value (fuel + 1) depth (chars v ++ rest) = some (v, rest)) : Recovered brackets v := by
  intro fuel depth rest enough
  obtain ⟨c, front, written, -⟩ := whole.begins
  cases fuel with
  | zero => simp [written] at enough
  | succ fuel => exact step fuel depth rest enough

theorem Whole.recovered {brackets : Nat} {v : Json} (whole : Whole brackets v) :
    Recovered brackets v := by
  induction whole with
  | null => exact Whole.null.recovered_of fun _ _ _ _ _ _ => rfl
  | bool held =>
    refine (Whole.bool held).recovered_of fun _ _ _ _ _ _ => ?_
    cases held <;> rfl
  | integer low high =>
    exact (Whole.integer low high).recovered_of fun fuel depth _ _ _ ends =>
      value_integer low high fuel depth ends
  | string text =>
    refine (Whole.string text).recovered_of fun fuel depth rest _ _ _ => ?_
    simp [chars, quoted, value, skipBlank_of_begins (c := '"') rfl, stringBody_quoted]
  | @array brackets items each ih =>
    refine (Whole.array each).recovered_of fun fuel depth rest enough shallow _ => ?_
    obtain ⟨depth, rfl⟩ : ∃ n, depth = n + 2 := ⟨depth - 2, by omega⟩
    cases items with
    | nil => simp [chars, itemChars, value, skipBlank, isBlank]
    | cons first others =>
      simp only [chars, List.length_append, List.length_cons, List.length_nil] at enough
      have listed := items_itemChars ih fuel (depth + 1) (by omega) (by omega) rest
      obtain ⟨c, front, written, solid, inside⟩ := (each first List.mem_cons_self).begins
      obtain ⟨front, written⟩ : ∃ front, itemChars (first :: others) = c :: front := by
        cases others <;> simp [itemChars, written]
      rw [written, List.cons_append] at listed
      simp [chars, written, value_bracket solid inside, listed]
  | @object brackets fields each ih =>
    refine (Whole.object each).recovered_of fun fuel depth rest enough shallow _ => ?_
    obtain ⟨depth, rfl⟩ : ∃ n, depth = n + 2 := ⟨depth - 2, by omega⟩
    cases fields with
    | nil => simp [chars, fieldChars, value, skipBlank, isBlank]
    | cons first others =>
      simp only [chars, List.length_append, List.length_cons, List.length_nil] at enough
      have listed := fields_fieldChars ih fuel (depth + 1) (by omega) (by omega) rest
      obtain ⟨front, written⟩ : ∃ front, fieldChars (first :: others) = '"' :: front := by
        cases others <;> simp [fieldChars, quoted]
      rw [written, List.cons_append] at listed
      simp [chars, written, value, skipBlank_of_begins (c := '\x7b') rfl,
        skipBlank_of_begins (c := '"') rfl, listed]

theorem readAsWritten_write {brackets : Nat} {v : Json} (whole : Whole brackets v)
    (shallow : brackets < depthLimit) : readAsWritten (write v) = some v := by
  have found := whole.recovered ((chars v).length + 1) depthLimit [] (by omega) shallow
    (by simp [Ends])
  rw [List.append_nil] at found
  simp [readAsWritten, write, found, skipBlank]

inductive Canonical : Json → Prop where
  | null : Canonical .null
  | bool (value : Bool) : Canonical (.bool value)
  | number (value : Number) : Canonical (.number value)
  | string (value : String) : Canonical (.string value)
  | array {items : List Json} (each : ∀ item ∈ items, Canonical item) : Canonical (.array items)
  | object {fields : List (String × Json)}
      (ascending : fields.Pairwise fun a b => a.1 < b.1)
      (each : ∀ field ∈ fields, Canonical field.2) : Canonical (.object fields)

theorem sortedItems_eq {items : List Json} (each : ∀ item ∈ items, sorted item = item) :
    sortedItems items = items := by
  induction items with
  | nil => rfl
  | cons item rest ih =>
    rw [sortedItems, each item List.mem_cons_self,
      ih fun other member => each other (List.mem_cons_of_mem _ member)]

theorem insert_last {key : String} {value : Json} {known : List (String × Json)}
    (last : ∀ field ∈ known, field.1 < key) :
    insert key value known = known ++ [(key, value)] := by
  induction known with
  | nil => rfl
  | cons field rest ih =>
    have before : field.1 < key := last field List.mem_cons_self
    rw [insert, if_neg (ne_of_gt before), if_neg (lt_asymm before),
      ih fun other member => last other (List.mem_cons_of_mem _ member), List.cons_append]

theorem sortedFields_eq {known fields : List (String × Json)}
    (ascending : (known ++ fields).Pairwise fun a b => a.1 < b.1)
    (each : ∀ field ∈ fields, sorted field.2 = field.2) :
    sortedFields known fields = known ++ fields := by
  induction fields generalizing known with
  | nil => simp [sortedFields]
  | cons field rest ih =>
    have last : ∀ other ∈ known, other.1 < field.1 := fun other member =>
      (List.pairwise_append.mp ascending).2.2 other member field List.mem_cons_self
    rw [List.append_cons] at ascending
    rw [sortedFields, each field List.mem_cons_self, insert_last last,
      ih ascending fun other member => each other (List.mem_cons_of_mem _ member),
      List.append_assoc, List.singleton_append]

theorem Canonical.sorted_eq {v : Json} (canonical : Canonical v) : sorted v = v := by
  induction canonical with
  | null | bool | number | string => rfl
  | array _ ih => rw [sorted, sortedItems_eq ih]
  | object ascending _ ih =>
    rw [sorted, sortedFields_eq (by simpa using ascending) ih, List.nil_append]

structure Spells (written value : Json) : Prop where
  whole : Whole (depthLimit - 1) written
  same : sorted written = value

theorem Spells.read_write {written value : Json} (spells : Spells written value) :
    read (write written) = some value := by
  rw [read, readAsWritten_write spells.whole (by decide), Option.map_some, spells.same]

structure Portable (brackets : Nat) (v : Json) : Prop where
  whole : Whole brackets v
  canonical : Canonical v

theorem Portable.spells {v : Json} (portable : Portable (depthLimit - 1) v) : Spells v v :=
  ⟨portable.whole, portable.canonical.sorted_eq⟩

def keys : Json → List String
  | .object fields => fields.map Prod.fst
  | _ => []

theorem Portable.object (brackets : Nat) {fields : List (String × Json)}
    (ascending : (Json.object fields).keys.Pairwise (· < ·))
    (each : ∀ field ∈ fields, Portable brackets field.2) :
    Portable (brackets + 1) (.object fields) :=
  ⟨.object fun field member => (each field member).whole,
    .object (List.pairwise_map.mp ascending) fun field member => (each field member).canonical⟩

theorem Portable.array (brackets : Nat) {items : List Json}
    (each : ∀ item ∈ items, Portable brackets item) : Portable (brackets + 1) (.array items) :=
  ⟨.array fun item member => (each item member).whole,
    .array fun item member => (each item member).canonical⟩

theorem Portable.string (brackets : Nat) (text : String) : Portable brackets (.string text) :=
  ⟨.string text, .string text⟩

theorem Portable.null (brackets : Nat) : Portable brackets .null := ⟨.null, .null⟩

theorem Portable.integer (brackets : Nat) {amount : Int} (low : -9223372036854775808 ≤ amount)
    (high : amount < wordLimit) : Portable brackets (.integer amount) :=
  ⟨.integer low high, .number _⟩

end PythonAssist.Json
