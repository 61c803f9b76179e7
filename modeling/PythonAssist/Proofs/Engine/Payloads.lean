import PythonAssist.Proofs.Engine.ChangedFiles

set_option autoImplicit false

namespace PythonAssist

namespace Json

theorem isNull_uint32 (value : UInt32) : (uint32 value).isNull = false := rfl

theorem decodeUInt32_uint32 (value : UInt32) : decodeUInt32 (uint32 value) = .ok value := by
  have bound : (value.toNat : Int) ≤ 4294967295 := by
    have := value.toNat_lt
    omega
  have read : decodeBounded 0 4294967295 "u32" (uint32 value) = .ok (value.toNat : Int) :=
    if_pos ⟨Int.natCast_nonneg _, bound⟩
  rw [decodeUInt32, read]
  simp [Except.map]

theorem decodeList_list {A : Type} {decode : Json → Decoded A} {encode : A → Json} {items : List A}
    (back : ∀ item ∈ items, decode (encode item) = .ok item) :
    decodeList decode (list encode items) = .ok items := by
  rw [list, decodeList, mapM_eq_ok_iff, List.forall₂_map_left_iff, List.forall₂_same]
  exact back

theorem decodeList_strings (texts : List String) :
    decodeList decodeString (strings texts) = .ok texts :=
  decodeList_list fun _ _ => rfl

theorem decodeOption_uint32 (value : Option UInt32) :
    decodeOption decodeUInt32 (option uint32 value) = .ok value :=
  decodeOption_option isNull_uint32 fun number _ => decodeUInt32_uint32 number

theorem decodeOption_string (value : Option String) :
    decodeOption decodeString (option .string value) = .ok value :=
  decodeOption_option (fun _ => rfl) fun _ _ => rfl

end Json

open Reader (takes_exact takes_defaulted)

namespace Environment

def slots : List Slot :=
  [.exact "executable" none, .exact "version" none, .exact "sys_path" (some (.array []))]

theorem reader_takes : reader.Takes slots := by
  have takes := (((takes_exact "executable" Path.decode).map Environment.mk).seq
    (takes_exact "version" Json.decodeString)).seq
    (takes_defaulted "sys_path" (Json.decodeList Json.decodeString) (.array []) rfl)
  exact takes

theorem decode_toJson {e : Environment} (isText : e.executable.IsText) :
    decode e.toJson = .ok e := by
  refine Reader.ofObject_of_build reader_takes.checked (by simp) ?_
  simp [reader, Json.field?, isText.decode_toJson, Json.decodeString, Json.decodeList_strings,
    Except.map, Except.bind]

end Environment

namespace SyntaxErrorSpan

def slots : List Slot :=
  [.exact "line" none, .exact "column" none, .exact "until_line" none, .exact "until_column" none]

theorem reader_takes : reader.Takes slots := by
  have takes := ((((takes_exact "line" Json.decodeUInt32).map SyntaxErrorSpan.mk).seq
    (takes_exact "column" Json.decodeUInt32)).seq (takes_exact "until_line" Json.decodeUInt32)).seq
    (takes_exact "until_column" Json.decodeUInt32)
  exact takes

theorem decode_toJson (span : SyntaxErrorSpan) : decode span.toJson = .ok span := by
  refine Reader.ofObject_of_build reader_takes.checked (by simp) ?_
  simp [reader, Json.field?, Json.decodeUInt32_uint32, Except.map, Except.bind]

end SyntaxErrorSpan

theorem NameKind.decode_toJson (kind : NameKind) : decode kind.toJson = .ok kind := by
  cases kind <;> decide

theorem ParamKind.decode_toJson (kind : ParamKind) : decode kind.toJson = .ok kind := by
  cases kind <;> decide

namespace SignatureParam

def slots : List Slot :=
  [.exact "name" none, .exact "kind" none, .exact "description" (some (.string ""))]

theorem reader_takes : reader.Takes slots := by
  have takes := (((takes_exact "name" Json.decodeString).map SignatureParam.mk).seq
    (takes_exact "kind" ParamKind.decode)).seq
    (takes_defaulted "description" Json.decodeString (.string "") rfl)
  exact takes

theorem decode_toJson (param : SignatureParam) : decode param.toJson = .ok param := by
  refine Reader.ofObject_of_build reader_takes.checked (by simp) ?_
  simp [reader, Json.field?, ParamKind.decode_toJson, Json.decodeString, Except.map, Except.bind]

end SignatureParam

namespace Signature

def slots : List Slot :=
  [.exact "label" none, .exact "index" (some .null), .records "params" SignatureParam.slots]

theorem reader_takes : reader.Takes slots := by
  have params := respects_items (SignatureParam.reader_takes.respects "struct SignatureParam")
  have takes := (((takes_exact "label" Json.decodeString).map Signature.mk).seq
    (takes_defaulted "index" (Json.decodeOption Json.decodeUInt32) .null rfl)).seq
    (Reader.takes_withDefault (.records "params" SignatureParam.slots) rfl rfl params)
  exact takes

theorem decode_toJson (signature : Signature) : decode signature.toJson = .ok signature := by
  have params := Json.decodeList_list fun param (_ : param ∈ signature.params) =>
    SignatureParam.decode_toJson param
  refine Reader.ofObject_of_build reader_takes.checked (by simp) ?_
  simp [reader, Json.field?, params, Json.decodeOption_uint32, Json.decodeString, Except.map,
    Except.bind]

end Signature

namespace Completion

def slots : List Slot :=
  [.exact "name" none, .exact "complete" none, .exact "type" none,
    .exact "docstring" (some (.string "")), .records "signatures" Signature.slots]

theorem reader_takes : reader.Takes slots := by
  have signatures := respects_items (Signature.reader_takes.respects "struct Signature")
  have takes := (((((takes_exact "name" Json.decodeString).map Completion.mk).seq
    (takes_exact "complete" Json.decodeString)).seq (takes_exact "type" NameKind.decode)).seq
    (takes_defaulted "docstring" Json.decodeString (.string "") rfl)).seq
    (Reader.takes_withDefault (.records "signatures" Signature.slots) rfl rfl signatures)
  exact takes

theorem decode_toJson (completion : Completion) : decode completion.toJson = .ok completion := by
  have signatures := Json.decodeList_list fun signature (_ : signature ∈ completion.signatures) =>
    Signature.decode_toJson signature
  refine Reader.ofObject_of_build reader_takes.checked (by simp) ?_
  simp [reader, Json.field?, signatures, NameKind.decode_toJson, Json.decodeString, Except.map,
    Except.bind]

end Completion

namespace Name

def slots : List Slot :=
  [.exact "name" none, .exact "module_path" (some .null), .exact "line" none,
    .exact "column" none, .exact "docstring" (some (.string ""))]

theorem reader_takes : reader.Takes slots := by
  have takes := (((((takes_exact "name" Json.decodeString).map Name.mk).seq
    (takes_defaulted "module_path" (Json.decodeOption Path.decode) .null rfl)).seq
    (takes_exact "line" Json.decodeUInt32)).seq (takes_exact "column" Json.decodeUInt32)).seq
    (takes_defaulted "docstring" Json.decodeString (.string "") rfl)
  exact takes

theorem decode_toJson {name : Name} (isText : ∀ path ∈ name.modulePath, path.IsText) :
    decode name.toJson = .ok name := by
  have path := Json.decodeOption_option Path.isNull_toJson fun path named =>
    (isText path named).decode_toJson
  refine Reader.ofObject_of_build reader_takes.checked (by simp) ?_
  simp [reader, Json.field?, path, Json.decodeUInt32_uint32, Json.decodeString, Except.map,
    Except.bind]

end Name

namespace SymbolName

def slots : List Slot :=
  [.exact "id" none, .exact "parent_id" (some .null), .exact "name" none, .exact "type" none,
    .exact "line" none, .exact "column" none, .exact "full_name" (some .null),
    .exact "parent_full_name" (some .null), .exact "module_name" (some (.string ""))]

theorem reader_takes : reader.Takes slots := by
  have takes := (((((((((takes_exact "id" Json.decodeUInt32).map SymbolName.mk).seq
    (takes_defaulted "parent_id" (Json.decodeOption Json.decodeUInt32) .null rfl)).seq
    (takes_exact "name" Json.decodeString)).seq (takes_exact "type" NameKind.decode)).seq
    (takes_exact "line" Json.decodeUInt32)).seq (takes_exact "column" Json.decodeUInt32)).seq
    (takes_defaulted "full_name" (Json.decodeOption Json.decodeString) .null rfl)).seq
    (takes_defaulted "parent_full_name" (Json.decodeOption Json.decodeString) .null rfl)).seq
    (takes_defaulted "module_name" Json.decodeString (.string "") rfl)
  exact takes

theorem decode_toJson (symbol : SymbolName) : decode symbol.toJson = .ok symbol := by
  refine Reader.ofObject_of_build reader_takes.checked (by simp) ?_
  simp [reader, Json.field?, Json.decodeUInt32_uint32, Json.decodeOption_uint32,
    Json.decodeOption_string, NameKind.decode_toJson, Json.decodeString, Except.map, Except.bind]

end SymbolName

namespace StyleFinding

def slots : List Slot := [.exact "line" none, .exact "column" none, .exact "text" none]

theorem reader_takes : reader.Takes slots := by
  have takes := (((takes_exact "line" Json.decodeUInt32).map StyleFinding.mk).seq
    (takes_exact "column" Json.decodeUInt32)).seq (takes_exact "text" Json.decodeString)
  exact takes

theorem decode_toJson (finding : StyleFinding) : decode finding.toJson = .ok finding := by
  refine Reader.ofObject_of_build reader_takes.checked (by simp) ?_
  simp [reader, Json.field?, Json.decodeUInt32_uint32, Json.decodeString, Except.map, Except.bind]

end StyleFinding

namespace FlakeReport

def variantSlots : Json → List Slot
  | .string "flake" =>
    [.exact "category" none, .exact "line" none, .exact "column" none, .exact "message" none]
  | .string "syntax_error" =>
    [.exact "message" none, .exact "line" none, .exact "column" (some .null)]
  | .string "unexpected_error" => [.exact "message" none]
  | _ => []

def slots (report : Json) : List Slot :=
  .exact "kind" none :: ((report.get? "kind").map variantSlots).getD []

theorem flakeReader_takes : flakeReader.Takes (variantSlots (.string "flake")) := by
  have takes := ((((takes_exact "category" Json.decodeString).map FlakeReport.flake).seq
    (takes_exact "line" Json.decodeUInt32)).seq (takes_exact "column" Json.decodeUInt32)).seq
    (takes_exact "message" Json.decodeString)
  exact takes

theorem syntaxErrorReader_takes :
    syntaxErrorReader.Takes (variantSlots (.string "syntax_error")) := by
  have takes := (((takes_exact "message" Json.decodeString).map FlakeReport.syntaxError).seq
    (takes_exact "line" Json.decodeUInt32)).seq
    (takes_defaulted "column" (Json.decodeOption Json.decodeUInt32) .null rfl)
  exact takes

theorem unexpectedErrorReader_takes :
    unexpectedErrorReader.Takes (variantSlots (.string "unexpected_error")) :=
  (takes_exact "message" Json.decodeString).map FlakeReport.unexpectedError

theorem select_takes {tag : Json} {reader : Reader FlakeReport} {what : String}
    (selected : select tag = .ok (reader, what)) : reader.Takes (variantSlots tag) := by
  unfold select at selected
  split at selected
  next =>
    cases selected
    exact flakeReader_takes
  next =>
    cases selected
    exact syntaxErrorReader_takes
  next =>
    cases selected
    exact unexpectedErrorReader_takes
  next => cases selected
  next => cases selected

theorem variantSlots_unique (tag : Json) :
    ("kind" :: (variantSlots tag).map Slot.key).Nodup := by
  unfold variantSlots
  split <;> simp [Slot.exact]

theorem slots_unique (report : Json) : ((slots report).map Slot.key).Nodup := by
  unfold slots
  cases report.get? "kind" with
  | none => simp
  | some tag => exact variantSlots_unique tag

def untagged (fields : List (String × Json)) : List (String × Json) :=
  fields.filter fun field => field.1 != "kind"

theorem field?_untagged {key : String} (other : key ≠ "kind") (fields : List (String × Json)) :
    Json.field? key (untagged fields) = Json.field? key fields := by
  induction fields with
  | nil => rfl
  | cons field rest ih =>
    obtain ⟨name, value⟩ := field
    rw [untagged] at ih ⊢
    by_cases tag : name = "kind"
    · rw [List.filter_cons_of_neg (by simp [tag]), ih, Json.field?, if_neg (tag ▸ other.symm)]
    · rw [List.filter_cons_of_pos (by simp [tag]), Json.field?, Json.field?, ih]

theorem decode_object {fields : List (String × Json)} {tag : Json} {reader : Reader FlakeReport}
    {what : String} (tagged : Json.field? "kind" fields = some tag)
    (selected : select tag = .ok (reader, what)) :
    decode (.object fields) = reader.ofObject (untagged fields) := by
  simp only [decode, tagged, selected]
  rfl

theorem distinct_untagged {fields : List (String × Json)} (distinct : (fields.map Prod.fst).Nodup) :
    ((untagged fields).map Prod.fst).Nodup :=
  distinct.sublist (List.filter_sublist.map Prod.fst)

theorem decode_toJson (report : FlakeReport) : decode report.toJson = .ok report := by
  cases report with
  | flake category line column message =>
    rw [toJson, decode_object rfl rfl]
    refine Reader.ofObject_of_build flakeReader_takes.checked (distinct_untagged (by simp)) ?_
    simp [flakeReader, field?_untagged, Json.field?, Json.decodeString, Json.decodeUInt32_uint32,
      Except.map, Except.bind]
  | syntaxError message line column =>
    rw [toJson, decode_object rfl rfl]
    refine Reader.ofObject_of_build syntaxErrorReader_takes.checked (distinct_untagged (by simp))
      ?_
    simp [syntaxErrorReader, field?_untagged, Json.field?, Json.decodeString,
      Json.decodeUInt32_uint32, Json.decodeOption_uint32, Except.map, Except.bind]
  | unexpectedError message =>
    rw [toJson, decode_object rfl rfl]
    refine Reader.ofObject_of_build unexpectedErrorReader_takes.checked
      (distinct_untagged (by simp)) ?_
    simp [unexpectedErrorReader, field?_untagged, Json.field?, Json.decodeString, Except.map]

theorem agrees_untagged {slot : Slot} (other : slot.key ≠ "kind") {a b : List (String × Json)}
    (agree : slot.Agrees a b) : slot.Agrees (untagged a) (untagged b) := by
  simpa only [Slot.Agrees, Slot.held, field?_untagged other] using agree

theorem decode_alike (a b : Json) (alike : Record (slots a) a b) :
    (decode a).toOption = (decode b).toOption := by
  rcases alike with _ | ⟨first, second, agree⟩
  · rfl
  next a b =>
  have same := Slot.held_eq_of_agrees (agree (.exact "kind" none) List.mem_cons_self)
  cases tagged : Json.field? "kind" a with
  | none =>
    have untagged : Json.field? "kind" b = none := by rw [← same, tagged]
    simp only [decode, tagged, untagged]
  | some tag =>
    have tagged' : Json.field? "kind" b = some tag := by rw [← same, tagged]
    cases selected : select tag with
    | error cause =>
      simp only [decode, tagged, tagged', selected]
      rfl
    | ok choice =>
      obtain ⟨reader, what⟩ := choice
      have takes := select_takes selected
      rw [decode_object tagged selected, decode_object tagged' selected,
        Reader.toOption_ofObject takes.checked (distinct_untagged first),
        Reader.toOption_ofObject takes.checked (distinct_untagged second)]
      refine takes.agrees _ _ fun slot member => ?_
      have other : slot.key ≠ "kind" := fun same =>
        (List.nodup_cons.mp (variantSlots_unique tag)).1 (same ▸ List.mem_map_of_mem member)
      refine agrees_untagged other (agree slot ?_)
      simp [slots, Json.get?, tagged, member]

end FlakeReport

theorem payloads_round_trip :
    RoundTrips Environment.decode Environment.toJson (fun e => e.executable.IsText)
      (fun _ => Environment.slots) ∧
    RoundTrips SyntaxErrorSpan.decode SyntaxErrorSpan.toJson (fun _ => True)
      (fun _ => SyntaxErrorSpan.slots) ∧
    (∀ kind : NameKind, NameKind.decode kind.toJson = .ok kind) ∧
    (∀ kind : ParamKind, ParamKind.decode kind.toJson = .ok kind) ∧
    RoundTrips SignatureParam.decode SignatureParam.toJson (fun _ => True)
      (fun _ => SignatureParam.slots) ∧
    RoundTrips Signature.decode Signature.toJson (fun _ => True) (fun _ => Signature.slots) ∧
    RoundTrips Completion.decode Completion.toJson (fun _ => True) (fun _ => Completion.slots) ∧
    RoundTrips Name.decode Name.toJson (fun name => ∀ path ∈ name.modulePath, path.IsText)
      (fun _ => Name.slots) ∧
    RoundTrips SymbolName.decode SymbolName.toJson (fun _ => True) (fun _ => SymbolName.slots) ∧
    RoundTrips ChangedFile.decode ChangedFile.toJson (fun _ => True) (fun _ => ChangedFile.slots) ∧
    RoundTrips Refactoring.decode Refactoring.toJson Refactoring.Written
      (fun _ => Refactoring.slots) ∧
    RoundTrips FlakeReport.decode FlakeReport.toJson (fun _ => True) FlakeReport.slots ∧
    RoundTrips StyleFinding.decode StyleFinding.toJson (fun _ => True)
      (fun _ => StyleFinding.slots) := by
  refine ⟨?_, ?_, NameKind.decode_toJson, ParamKind.decode_toJson, ?_, ?_, ?_, ?_, ?_, ?_,
    ?_, ?_, ?_⟩
  · exact Environment.reader_takes.roundTrips (by decide) fun _ => Environment.decode_toJson
  · exact SyntaxErrorSpan.reader_takes.roundTrips (by decide) fun span _ => span.decode_toJson
  · exact SignatureParam.reader_takes.roundTrips (by decide) fun param _ => param.decode_toJson
  · exact Signature.reader_takes.roundTrips (by decide) fun signature _ => signature.decode_toJson
  · exact Completion.reader_takes.roundTrips (by decide) fun completion _ =>
      completion.decode_toJson
  · exact Name.reader_takes.roundTrips (by decide) fun _ => Name.decode_toJson
  · exact SymbolName.reader_takes.roundTrips (by decide) fun symbol _ => symbol.decode_toJson
  · exact ChangedFile.reader_takes.roundTrips (by decide) fun file _ => file.decode_toJson
  · exact Refactoring.reader_takes.roundTrips (by decide) fun _ => Refactoring.decode_toJson
  · exact roundTrips_of FlakeReport.slots_unique (fun report _ => report.decode_toJson)
      FlakeReport.decode_alike
  · exact StyleFinding.reader_takes.roundTrips (by decide) fun finding _ => finding.decode_toJson

-- In the order of paths a folder stands before its name with an ending, in that of texts behind.
-- The parameter has its fields in another order, one that is not known, and no description.
theorem folder_and_bare_parameter_are_read :
    let moved : Refactoring :=
      ⟨[(.ofString "lib/a.py", ⟨"", "é"⟩), (.ofString "lib.py", ⟨"x", "y"⟩)]⟩
    let bare : Json := .object [("kind", .string "VAR_KEYWORD"), ("default", .null),
      ("name", .string "kwargs")]
    let report : Json := .object [("line", .nat 3), ("message", .string "invalid"),
      ("kind", .string "syntax_error")]
    Refactoring.decode moved.toJson = .ok moved ∧
      Signature.decode (.object [("params", .array [bare]), ("label", .string "f(**kwargs)")]) =
        .ok ⟨"f(**kwargs)", none, [⟨"kwargs", .varKeyword, ""⟩]⟩ ∧
      FlakeReport.decode report = .ok (.syntaxError "invalid" 3 none) := by
  intro moved bare report
  obtain ⟨-, -, -, -, -, signatures, -, -, -, -, refactorings, reports, -⟩ := payloads_round_trip
  refine ⟨refactorings.back moved ⟨?_, ?_⟩, ?_, ?_⟩
  · have before : (Path.ofString "lib/a.py").before (.ofString "lib.py") = true := by
      decide +kernel
    simp [Refactoring.Ordered, moved, before]
  · simp [moved, Path.IsText]
  · let param : SignatureParam := ⟨"kwargs", .varKeyword, ""⟩
    let whole : Signature := ⟨"f(**kwargs)", none, [param]⟩
    have params : Record SignatureParam.slots param.toJson bare := by
      refine .fields (by simp) (by simp) fun slot known => ?_
      simp only [SignatureParam.slots, List.mem_cons, List.not_mem_nil, or_false] at known
      rcases known with rfl | rfl | rfl <;> exact .of_held_eq rfl
    have same := signatures.alike whole.toJson
      (.object [("params", .array [bare]), ("label", .string "f(**kwargs)")]) <| by
        refine .fields (by simp) (by simp) fun slot known => ?_
        simp only [Signature.slots, List.mem_cons, List.not_mem_nil, or_false] at known
        rcases known with rfl | rfl | rfl
        · exact .of_held_eq rfl
        · exact .of_held_eq rfl
        · exact .some (.items (.cons params .nil))
    rw [signatures.back whole trivial] at same
    exact eq_ok_of_toOption same.symm
  · let whole : FlakeReport := .syntaxError "invalid" 3 none
    have same := reports.alike whole.toJson report <| by
      refine .fields (by simp) (by simp) fun slot known => ?_
      have slots : FlakeReport.slots whole.toJson =
          .exact "kind" none :: FlakeReport.variantSlots (.string "syntax_error") := rfl
      simp only [slots, FlakeReport.variantSlots, List.mem_cons, List.not_mem_nil, or_false]
        at known
      rcases known with rfl | rfl | rfl | rfl <;> exact .of_held_eq rfl
    rw [reports.back whole trivial] at same
    exact eq_ok_of_toOption same.symm

end PythonAssist
