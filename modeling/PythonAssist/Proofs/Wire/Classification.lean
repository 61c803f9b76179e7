import PythonAssist.Proofs.Json.Records
import PythonAssist.Proofs.Json.RoundTrip
import PythonAssist.Proofs.Wire.Stream
import PythonAssist.Worker.Client

set_option autoImplicit false

namespace PythonAssist

namespace Json

theorem decodeInt64_integer {value : Int} (low : -9223372036854775808 ≤ value)
    (high : value ≤ 9223372036854775807) : decodeInt64 (.integer value) = .ok value :=
  if_pos ⟨low, high⟩

def orAbsent (value : Option Json) : Option Json := value.filter fun value => !value.isNull

theorem decodeOption_any (value : Json) :
    decodeOption decodeAny value = .ok (orAbsent (some value)) := by
  cases value <;> rfl

end Json

@[simp] theorem mem_optionalField {name : String} {value : Option Json} {field : String × Json} :
    field ∈ optionalField name value ↔ ∃ held, value = some held ∧ field = (name, held) := by
  cases value <;> simp [optionalField]

theorem keys_optionalField (name : String) (value : Option Json) :
    ((optionalField name value).map Prod.fst).Sublist [name] := by
  cases value <;> simp [optionalField]

namespace RequestId

def Fits : RequestId → Prop
  | .number value => -9223372036854775808 ≤ value ∧ value ≤ 9223372036854775807
  | .text _ => True

theorem decode_toJson {id : RequestId} (fits : id.Fits) : decode id.toJson = .ok id := by
  cases id with
  | number value =>
    have read : Json.decodeInt64 (toJson (.number value)) = .ok value :=
      Json.decodeInt64_integer fits.1 fits.2
    simp only [decode, read]
  | text value => rfl

theorem isNull_toJson (id : RequestId) : id.toJson.isNull = false := by
  cases id <;> rfl

theorem portable_toJson {id : RequestId} (fits : id.Fits) (brackets : Nat) :
    id.toJson.Portable brackets := by
  cases id with
  | number value =>
    exact .integer brackets fits.1 (Int.lt_of_le_of_lt fits.2 (by decide))
  | text value => exact .string brackets value

end RequestId

namespace RequestMessage

structure Sendable (message : RequestMessage) : Prop where
  id : message.id.Fits
  params : message.params.Portable (Json.depthLimit - 2)

theorem reader_checked : reader.Checked :=
  .seq (.seq (.seq (.map _ (Reader.checked_required _ _)) (Reader.checked_required _ _))
    (Reader.checked_required _ _)) (Reader.checked_withDefault _ _ _)

theorem decode_toJson {message : RequestMessage} (fits : message.id.Fits) :
    decode message.toJson = .ok message := by
  refine Reader.ofObject_of_build reader_checked (by simp) ?_
  simp [reader, Json.field?, RequestId.decode_toJson fits, Json.decodeString, Json.decodeAny,
    Except.map, Except.bind]

theorem portable_toJson {message : RequestMessage} (sendable : message.Sendable) :
    message.toJson.Portable (Json.depthLimit - 1) := by
  have ascending : ["id", "jsonrpc", "method", "params"].Pairwise (· < ·) := by decide
  refine Json.Portable.object (Json.depthLimit - 2) ascending ?_
  simp [RequestId.portable_toJson sendable.id, Json.Portable.string, sendable.params]

theorem ofJson_toJson {message : RequestMessage} (fits : message.id.Fits) :
    Incoming.ofJson message.toJson = .ok (.request message) := by
  have method : Incoming.hasMethod message.toJson = true := by
    simp [Incoming.hasMethod, toJson, Json.get?, Json.field?]
  have id : Incoming.hasId message.toJson = true := by
    simp [Incoming.hasId, toJson, Json.get?, Json.field?, message.id.isNull_toJson]
  rw [Incoming.ofJson, if_pos method, if_pos id, decode_toJson fits]
  rfl

end RequestMessage

namespace NotificationMessage

structure Sendable (message : NotificationMessage) : Prop where
  params : message.params.Portable (Json.depthLimit - 2)

theorem reader_checked : reader.Checked :=
  .seq (.seq (.map _ (Reader.checked_required _ _)) (Reader.checked_required _ _))
    (Reader.checked_withDefault _ _ _)

theorem decode_toJson (message : NotificationMessage) : decode message.toJson = .ok message := by
  refine Reader.ofObject_of_build reader_checked (by simp) ?_
  simp [reader, Json.field?, Json.decodeString, Json.decodeAny, Except.map, Except.bind]

theorem portable_toJson {message : NotificationMessage} (sendable : message.Sendable) :
    message.toJson.Portable (Json.depthLimit - 1) := by
  have ascending : ["jsonrpc", "method", "params"].Pairwise (· < ·) := by decide
  refine Json.Portable.object (Json.depthLimit - 2) ascending ?_
  simp [Json.Portable.string, sendable.params]

theorem ofJson_toJson (message : NotificationMessage) :
    Incoming.ofJson message.toJson = .ok (.notification message) := by
  have method : Incoming.hasMethod message.toJson = true := by
    simp [Incoming.hasMethod, toJson, Json.get?, Json.field?]
  have id : Incoming.hasId message.toJson = false := by
    simp [Incoming.hasId, toJson, Json.get?, Json.field?]
  rw [Incoming.ofJson, if_pos method, id, decode_toJson]
  rfl

end NotificationMessage

namespace ResponseError

def withoutNull (error : ResponseError) : ResponseError :=
  { error with data := Json.orAbsent error.data }

structure Sendable (error : ResponseError) : Prop where
  low : -9223372036854775808 ≤ error.code
  high : error.code ≤ 9223372036854775807
  data : ∀ data ∈ error.data, data.Portable (Json.depthLimit - 3)

theorem reader_checked : reader.Checked :=
  .seq (.seq (.map _ (Reader.checked_required _ _)) (Reader.checked_required _ _))
    (Reader.checked_optional _ _)

theorem toJson_ascending (error : ResponseError) : error.toJson.keys.Pairwise (· < ·) := by
  have all : ["code", "data", "message"].Pairwise (· < ·) := by decide
  refine all.sublist ?_
  simp only [toJson, Json.keys, List.map_append]
  exact ((List.Sublist.refl ["code"]).append (keys_optionalField _ _)).append (.refl ["message"])

theorem decode_toJson {error : ResponseError} (sendable : error.Sendable) :
    decode error.toJson = .ok error.withoutNull := by
  obtain ⟨code, message, data⟩ := error
  have number := Json.decodeInt64_integer sendable.low sendable.high
  refine Reader.ofObject_of_build reader_checked (by cases data <;> simp [optionalField]) ?_
  cases data <;>
    simp [reader, Json.field?, optionalField, number, Json.decodeString, Json.decodeOption_any,
      Except.map, Except.bind, withoutNull, Json.orAbsent]

theorem portable_toJson {error : ResponseError} (sendable : error.Sendable) :
    error.toJson.Portable (Json.depthLimit - 2) := by
  have code := Json.Portable.integer (Json.depthLimit - 3) sendable.low
    (Int.lt_of_le_of_lt sendable.high (by decide))
  refine Json.Portable.object (Json.depthLimit - 3) (toJson_ascending error) fun field member => ?_
  simp only [List.mem_append, List.mem_singleton, mem_optionalField] at member
  rcases member with (rfl | ⟨data, held, rfl⟩) | rfl
  · exact code
  · exact sendable.data data held
  · exact .string _ _

end ResponseError

namespace ResponseMessage

-- The fields of a response as its text tells them: null for the result or the data of the
-- error is no different from none.
def withoutNulls (message : ResponseMessage) : ResponseMessage :=
  { message with
    result := Json.orAbsent message.result
    error := message.error.map ResponseError.withoutNull }

structure Sendable (message : ResponseMessage) : Prop where
  id : ∀ id ∈ message.id, id.Fits
  result : ∀ result ∈ message.result, result.Portable (Json.depthLimit - 2)
  error : ∀ error ∈ message.error, error.Sendable

theorem reader_checked : reader.Checked :=
  .seq (.seq (.seq (.map _ (Reader.checked_required _ _)) (Reader.checked_optional _ _))
    (Reader.checked_withDefault _ _ _)) (Reader.checked_optional _ _)

theorem decode_toJson {message : ResponseMessage} (sendable : message.Sendable) :
    decode message.toJson = .ok message.withoutNulls := by
  obtain ⟨version, id, result, error⟩ := message
  have id := Json.decodeOption_option RequestId.isNull_toJson
    fun id named => RequestId.decode_toJson (sendable.id id named)
  refine Reader.ofObject_of_build reader_checked
    (by cases result <;> cases error <;> simp [optionalField]) ?_
  cases error with
  | none =>
    cases result <;>
      simp [reader, Json.field?, optionalField, id, Json.decodeString, Json.decodeOption_any,
        Except.map, Except.bind, withoutNulls, Json.orAbsent]
  | some error =>
    have failed : Json.decodeOption ResponseError.decode error.toJson =
        .ok (some error.withoutNull) := by
      rw [Json.decodeOption_of_solid rfl, ResponseError.decode_toJson (sendable.error error rfl)]
      rfl
    cases result <;>
      simp [reader, Json.field?, optionalField, id, failed, Json.decodeString,
        Json.decodeOption_any, Except.map, Except.bind, withoutNulls, Json.orAbsent]

theorem toJson_ascending (message : ResponseMessage) :
    message.toJson.keys.Pairwise (· < ·) := by
  have all : ["error", "id", "jsonrpc", "result"].Pairwise (· < ·) := by decide
  refine all.sublist ?_
  simp only [toJson, Json.keys, List.map_append]
  exact ((keys_optionalField _ _).append (.refl ["id", "jsonrpc"])).append (keys_optionalField _ _)

theorem portable_toJson {message : ResponseMessage} (sendable : message.Sendable) :
    message.toJson.Portable (Json.depthLimit - 1) := by
  refine Json.Portable.object (Json.depthLimit - 2) (toJson_ascending message)
    fun field member => ?_
  simp only [List.mem_append, List.mem_cons, List.not_mem_nil, or_false, mem_optionalField]
    at member
  rcases member with (⟨_, failed, rfl⟩ | rfl | rfl) | ⟨result, held, rfl⟩
  · obtain ⟨error, held, rfl⟩ := Option.map_eq_some_iff.mp failed
    exact ResponseError.portable_toJson (sendable.error error held)
  · cases named : message.id with
    | none => exact .null _
    | some id => exact RequestId.portable_toJson (sendable.id id named) _
  · exact .string _ _
  · exact sendable.result result held

theorem ofJson_toJson {message : ResponseMessage} (sendable : message.Sendable) :
    Incoming.ofJson message.toJson = .ok (.response message.withoutNulls) := by
  have method : Incoming.hasMethod message.toJson = false := by
    obtain ⟨version, id, result, error⟩ := message
    cases result <;> cases error <;>
      simp [Incoming.hasMethod, toJson, Json.get?, Json.field?, optionalField]
  rw [Incoming.ofJson, method, if_neg Bool.false_ne_true, decode_toJson sendable]
  rfl

end ResponseMessage

namespace Incoming

structure ReadAs (value : Json) (incoming : Incoming) : Prop where
  written : classify (Json.write value) = .ok incoming
  respelled : ∀ text, text.Spells value → classify (Json.write text) = .ok incoming

theorem readAs_of_ofJson {value : Json} {incoming : Incoming}
    (portable : value.Portable (Json.depthLimit - 1)) (shaped : ofJson value = .ok incoming) :
    ReadAs value incoming := by
  have respelled (text : Json) (spells : text.Spells value) :
      classify (Json.write text) = .ok incoming := by
    rw [classify, spells.read_write]
    simp only [shaped]
  exact ⟨respelled value portable.spells, respelled⟩

def SentAs (bytes : Bytes) (incoming : Incoming) : Prop :=
  ∃ body, bytes = Frame.encode body ∧ classify body = .ok incoming ∧
    (Frame.Fits body → ∀ rest, Frame.take (bytes ++ rest) = .body body rest)

theorem sentAs_of_readAs {value : Json} {incoming : Incoming} (read : ReadAs value incoming) :
    SentAs (Frame.encode (Json.write value)) incoming :=
  ⟨Json.write value, rfl, read.written, fun fits rest =>
    Frame.take_frame (Frame.readable_toSegment fits) rfl rest⟩

end Incoming

theorem RequestMessage.readAs {message : RequestMessage} (sendable : message.Sendable) :
    Incoming.ReadAs message.toJson (.request message) :=
  Incoming.readAs_of_ofJson (portable_toJson sendable) (ofJson_toJson sendable.id)

theorem NotificationMessage.readAs {message : NotificationMessage} (sendable : message.Sendable) :
    Incoming.ReadAs message.toJson (.notification message) :=
  Incoming.readAs_of_ofJson (portable_toJson sendable) (ofJson_toJson message)

theorem ResponseMessage.readAs {message : ResponseMessage} (sendable : message.Sendable) :
    Incoming.ReadAs message.toJson (.response message.withoutNulls) :=
  Incoming.readAs_of_ofJson (portable_toJson sendable) (ofJson_toJson sendable)

theorem messages_survive_the_wire :
    (∀ message : RequestMessage, message.Sendable →
      Incoming.ReadAs message.toJson (.request message)) ∧
    (∀ message : NotificationMessage, message.Sendable →
      Incoming.ReadAs message.toJson (.notification message)) ∧
    (∀ message : ResponseMessage, message.Sendable →
      Incoming.ReadAs message.toJson (.response message.withoutNulls)) ∧
    (∀ (client : WorkerClient) (method : String) (params : Json),
      client.next ≤ 9223372036854775807 → params.Portable (Json.depthLimit - 2) →
      Incoming.SentAs (client.request method params).1.2
        (.request ⟨jsonrpcVersion, .number client.next, method, params⟩)) ∧
    (∀ (method : String) (params : Json), params.Portable (Json.depthLimit - 2) →
      Incoming.SentAs (WorkerClient.notification method params)
        (.notification ⟨jsonrpcVersion, method, params⟩)) ∧
    (∀ (id : RequestId) (result : Json), id.Fits → result.Portable (Json.depthLimit - 2) →
      Incoming.ReadAs (ResponseMessage.success id result).toJson
        (.response ⟨jsonrpcVersion, some id, Json.orAbsent (some result), none⟩)) ∧
    (∀ (id : Option RequestId) (code : Int) (text : String), (∀ known ∈ id, known.Fits) →
      -9223372036854775808 ≤ code → code ≤ 9223372036854775807 →
      Incoming.ReadAs (ResponseMessage.failure id code text).toJson
        (.response ⟨jsonrpcVersion, id, none, some ⟨code, text, none⟩⟩)) := by
  refine ⟨fun _ => RequestMessage.readAs, fun _ => NotificationMessage.readAs,
    fun _ => ResponseMessage.readAs, fun client method params counted portable => ?_,
    fun method params portable => ?_, fun id result fits portable => ?_,
    fun id code text fits low high => ?_⟩
  · have id : (RequestId.number client.next).Fits := ⟨by omega, by omega⟩
    exact Incoming.sentAs_of_readAs (RequestMessage.readAs ⟨id, portable⟩)
  · exact Incoming.sentAs_of_readAs (NotificationMessage.readAs ⟨portable⟩)
  · refine ResponseMessage.readAs ⟨?_, ?_, ?_⟩
    · rintro _ ⟨⟩
      exact fits
    · rintro _ ⟨⟩
      exact portable
    · rintro _ ⟨⟩
  · refine ResponseMessage.readAs ⟨fits, ?_, ?_⟩
    · rintro _ ⟨⟩
    · rintro _ ⟨⟩
      exact ⟨low, high, by rintro _ ⟨⟩⟩

-- The request is written with its fields as they are declared, not in the order of their keys;
-- the answer has an error with null for its data.
theorem inference_is_asked_and_answered :
    let params : Json := .object [("at", .array [.nat 1, .null]), ("path", .string "a\n\u0001")]
    let id : RequestId := .number (-7)
    Incoming.classify
        ("\x7b\"jsonrpc\":\"2.0\",\"id\":-7,\"method\":\"infer \\\"é\\\"\"," ++
          "\"params\":\x7b\"at\":[1,null],\"path\":\"a\\n\\u0001\"\x7d\x7d") =
        .ok (.request ⟨"2.0", id, "infer \"é\"", params⟩) ∧
      Incoming.ReadAs (NotificationMessage.toJson ⟨"", "", .null⟩) (.notification ⟨"", "", .null⟩) ∧
      Incoming.ReadAs (ResponseMessage.toJson ⟨"2.0", none, some .null, some ⟨-1, "", some .null⟩⟩)
        (.response ⟨"2.0", none, none, some ⟨-1, "", none⟩⟩) ∧
      Incoming.SentAs (WorkerClient.fresh.request "infer" params).1.2
        (.request ⟨"2.0", .number 1, "infer", params⟩) ∧
      Incoming.SentAs (WorkerClient.notification "exit" params)
        (.notification ⟨"2.0", "exit", params⟩) ∧
      Incoming.ReadAs (ResponseMessage.success id params).toJson
        (.response ⟨"2.0", some id, some params, none⟩) ∧
      Incoming.ReadAs (ResponseMessage.failure (some id) ErrorCode.parseError "?").toJson
        (.response ⟨"2.0", some id, none, some ⟨ErrorCode.parseError, "?", none⟩⟩) := by
  intro params id
  obtain ⟨request, notification, response, asked, told, success, failure⟩ :=
    messages_survive_the_wire
  have portable : params.Portable (Json.depthLimit - 2) := by
    have ascending : ["at", "path"].Pairwise (· < ·) := by decide
    have one : (Json.nat 1).Portable 124 := .integer 124 (by decide) (by decide)
    have items : (Json.array [.nat 1, .null]).Portable 125 :=
      .array 124 (by simp [one, Json.Portable.null])
    exact .object 125 ascending (by simp [items, Json.Portable.string])
  have fits : id.Fits := ⟨by decide, by decide⟩
  refine ⟨?_, notification _ ⟨.null _⟩, response _ ⟨?_, ?_, ?_⟩,
    asked WorkerClient.fresh "infer" params (by decide) portable,
    told "exit" params portable, success id params fits portable,
    failure (some id) _ "?" (by rintro _ ⟨⟩; exact fits) (by decide) (by decide)⟩
  · let declared : Json := .object [("jsonrpc", .string "2.0"), ("id", .integer (-7)),
      ("method", .string "infer \"é\""), ("params", params)]
    have number : (Json.integer (-7)).Whole 126 := .integer (by decide) (by decide)
    have inside : params.Whole 126 := portable.whole
    have whole : declared.Whole (Json.depthLimit - 1) :=
      .object (by simp [number, inside, Json.Whole.string])
    have text : Json.write declared =
        "\x7b\"jsonrpc\":\"2.0\",\"id\":-7,\"method\":\"infer \\\"é\\\"\"," ++
          "\"params\":\x7b\"at\":[1,null],\"path\":\"a\\n\\u0001\"\x7d\x7d" := by
      decide +kernel
    rw [← text]
    exact (request ⟨"2.0", id, "infer \"é\"", params⟩ ⟨fits, portable⟩).respelled declared
      ⟨whole, rfl⟩
  · rintro _ ⟨⟩
  · rintro _ ⟨⟩
    exact .null _
  · rintro _ ⟨⟩
    exact ⟨by decide, by decide, by rintro _ ⟨⟩; exact .null _⟩

end PythonAssist
