import ClassOrder.Frame
import ClassOrder.Proofs.Json.RoundTrip
import ClassOrder.Proofs.Text.Utf8

/-!
# Messages read back

A message is written as an object whose fields tell its kind: a method with an identifier for a
request, a method alone for a notification, an identifier alone for a response.  The reader tells
the kinds apart by the same fields, so a message that can be written comes back from its frame as
it was.

## Main definitions

* `Message.Writable` — the messages that can be written and read back.
* `Message.OneOutcome` — the responses that have a result or an error, not both.
* `Message.params?` — the parameters of a call.

## Main results

* `Message.OneOutcome.ofPayload_payload`, `ofPayload_payload` — a message is read from the object
  that it is written as.
* `readBody_body` — a message is read from the body of its frame.
* `frame_eq_header_append_text` — the frame of a message, and what comes back from it.
-/

namespace ClassOrder

/-! ### What can be written -/

/-- An identifier that is a number has as many digits as a whole number may have. -/
def MessageId.Writable (id : MessageId) : Prop := id.payload.Writable

/-- An error whose number and details can be written. -/
structure ErrorObject.Writable (e : ErrorObject) : Prop where
  code : (Json.int e.code).Writable
  data : e.data.Writable

/-- A response has a result or an error, where a null result counts as none. -/
def Message.OneOutcome : Message → Prop
  | response _ result error => error = none ∨ result = .null
  | _ => True

/-- The messages that can be written and read back.  A response has a result or an error, where
a null result counts as none. -/
def Message.Writable : Message → Prop
  | request id _ params => id.Writable ∧ params.Writable
  | notification _ params => params.Writable
  | response id result error =>
    (∀ i ∈ id, i.Writable) ∧ result.Writable ∧ (∀ e ∈ error, e.Writable) ∧
      (error = none ∨ result = .null)

/-- The parameters of a call, null if it has none. -/
def Message.params? : Message → Option Json
  | request _ _ params => some params
  | notification _ params => some params
  | response .. => none

/-! ### Fields -/

@[simp] theorem Json.field?_object (name : String) (fields : List (String × Json)) :
    (Json.object fields).field? name = Assoc.get? name fields := rfl

theorem getD_optionalField (name : String) (v : Json) :
    (Assoc.get? name (optionalField name v)).getD .null = v := by
  cases v <;> simp [optionalField, Json.isNull, Assoc.get?]

theorem get?_optionalField_of_ne {name other : String} (h : name ≠ other) (v : Json) :
    Assoc.get? other (optionalField name v) = none := by
  unfold optionalField
  split
  · rfl
  · simp [Assoc.get?, h]

theorem writableFields_optionalField {name : String} {v : Json} (hv : v.Writable) :
    Json.WritableFields (optionalField name v) := by
  unfold optionalField
  split
  · trivial
  · exact ⟨hv, trivial⟩

theorem map_fst_optionalField (name : String) (v : Json) :
    (optionalField name v).map (·.1) = if v.isNull then [] else [name] := by
  unfold optionalField
  split <;> simp

/-! ### Writing -/

theorem ErrorObject.Writable.payload {e : ErrorObject} (h : e.Writable) : e.payload.Writable := by
  refine ⟨?_, h.code, trivial, writableFields_optionalField h.data⟩
  simp only [List.map_cons, map_fst_optionalField]
  split <;> decide

theorem MessageId.Writable.payload {id : Option MessageId} (h : ∀ i ∈ id, i.Writable) :
    ((id.map MessageId.payload).getD .null).Writable := by
  cases id with
  | none => trivial
  | some i => exact h i rfl

/-- The object that a message is written as can be written. -/
theorem Message.Writable.payload {m : Message} (h : m.Writable) : m.payload.Writable := by
  cases m with
  | request id method params =>
    refine ⟨?_, trivial, h.1, trivial, writableFields_optionalField h.2⟩
    simp only [List.map_cons, map_fst_optionalField]
    split <;> decide
  | notification method params =>
    refine ⟨?_, trivial, trivial, writableFields_optionalField h⟩
    simp only [List.map_cons, map_fst_optionalField]
    split <;> decide
  | response id result error =>
    obtain ⟨hid, hresult, herror, -⟩ := h
    cases error with
    | none =>
      exact ⟨by simp [versionField], trivial, MessageId.Writable.payload hid, hresult, trivial⟩
    | some e =>
      exact ⟨by simp [versionField], trivial, MessageId.Writable.payload hid,
        (herror e rfl).payload, trivial⟩

/-! ### Reading -/

@[simp] theorem readId?_payload (id : MessageId) : readId? id.payload = some id := by
  cases id <;> rfl

@[simp] theorem versionOk_object (fields : List (String × Json)) :
    versionOk (.object (versionField :: fields)) = true := rfl

theorem readError_error {v : Json} {e : ErrorObject} (h : v.fieldOrNull "error" = e.payload) :
    readError v = .ok (some e) := by
  have hdata := getD_optionalField "data" e.data
  rw [readError, h]
  simp [ErrorObject.payload, Assoc.get?, textField?, readCode?, readId?, Json.fieldOrNull, hdata]

theorem readError_null {v : Json} (h : v.fieldOrNull "error" = .null) : readError v = .ok none := by
  rw [readError, h]

theorem readResponseId?_payload {v : Json} {id : Option MessageId}
    (h : v.fieldOrNull "id" = (id.map MessageId.payload).getD .null) :
    readResponseId? v = some id := by
  rw [readResponseId?, h]
  rcases id with _ | ⟨n⟩ | ⟨s⟩ <;> rfl

/-- **A message is read from the object that it is written as**, whatever its numbers and texts. -/
theorem Message.OneOutcome.ofPayload_payload {m : Message} (h : m.OneOutcome) :
    Message.ofPayload m.payload = .ok m := by
  cases m with
  | request id method params =>
    have hparams := getD_optionalField "params" params
    simp [Message.payload, Message.ofPayload, Json.isObject, Json.hasField, versionField,
      Assoc.get?, readRequest, versionOk, textField?, Json.fieldOrNull, hparams, Except.mapError]
  | notification method params =>
    have hparams := getD_optionalField "params" params
    have hid := get?_optionalField_of_ne (show "params" ≠ "id" by decide) params
    simp [Message.payload, Message.ofPayload, Json.isObject, Json.hasField, versionField,
      Assoc.get?, readNotification, versionOk, textField?, Json.fieldOrNull, hparams, hid,
      Except.mapError]
  | response id result error =>
    have hboth : error = none ∨ result = .null := h
    -- without a method it is read as a response, whose error is told by its field alone
    have herror : readError (Message.payload (.response id result error)) = .ok error := by
      cases error with
      | none => exact readError_null rfl
      | some e => exact readError_error rfl
    have hid : readResponseId? (Message.payload (.response id result error)) = some id :=
      readResponseId?_payload rfl
    cases error with
    | none =>
      have hread : readResponse (Message.payload (.response id result none)) =
          .ok (.response id result none) := by
        rw [readResponse, herror, hid]
        rfl
      exact congrArg (Except.mapError DecodeFault.wrongFields) hread
    | some e =>
      obtain rfl : result = .null := by simpa using hboth
      have hread : readResponse (Message.payload (.response id .null (some e))) =
          .ok (.response id .null (some e)) := by
        rw [readResponse, herror, hid]
        rfl
      exact congrArg (Except.mapError DecodeFault.wrongFields) hread

theorem Message.Writable.oneOutcome {m : Message} (h : m.Writable) : m.OneOutcome := by
  cases m with
  | request => trivial
  | notification => trivial
  | response => exact h.2.2.2

theorem ofPayload_payload {m : Message} (h : m.Writable) : Message.ofPayload m.payload = .ok m :=
  h.oneOutcome.ofPayload_payload

/-- **A message is read from the body of its frame.** -/
theorem readBody_body {m : Message} (h : m.Writable) : readBody m.body = .ok m := by
  rw [readBody, Message.body, Text.ofUtf8?_utf8]
  simp only [Json.read_compact h.payload, ofPayload_payload h]
  rfl

/-! ### Frames -/

/-- A call is written without parameters exactly when they are null. -/
theorem hasField_params_payload (m : Message) :
    m.payload.hasField "params" = m.params?.any (!·.isNull) := by
  cases m with
  | request id method params => cases params <;> rfl
  | notification method params => cases params <;> rfl
  | response id result error => cases error <;> rfl

theorem lengthHeader_eq (n : Nat) :
    lengthHeader n = Text.utf8 ("Content-Length: " ++ toString n ++ "\r\n\r\n") := by
  have hend : Text.utf8 "\r\n\r\n" = lineEnd ++ lineEnd := by decide
  simp only [lengthHeader, Text.utf8_append, hend, List.append_assoc]

/-- **A message comes back from its frame.**  The frame is a header with the number of bytes of a
text and that text; the text is the object of the message, without parameters where they are
null; and reading these bytes gives the same message. -/
theorem frame_eq_header_append_text {m : Message} (h : m.Writable) :
    ∃ text : String,
      m.frame = Text.utf8 ("Content-Length: " ++ toString (Text.utf8 text).length ++ "\r\n\r\n") ++
        Text.utf8 text ∧
      Json.read text.toList = .ok m.payload ∧
      (m.payload.hasField "params" = true ↔ ∃ params, m.params? = some params ∧ params ≠ .null) ∧
      readBody (Text.utf8 text) = .ok m := by
  refine ⟨m.payload.compact, ?_, Json.read_compact h.payload, ?_, readBody_body h⟩
  · rw [Message.frame, lengthHeader_eq]
    rfl
  · rw [hasField_params_payload, Option.any_eq_true]
    have hnull (v : Json) : (!v.isNull) = true ↔ v ≠ .null := by cases v <;> simp [Json.isNull]
    simp only [hnull]

/-- A request whose parameters have every kind of value in them. -/
def nestedRequest : Message :=
  .request (.number (-7)) "textDocument/didOpen" (.object
    [("text", .string "a\"b\\c\n\u0001é😀"),
      ("items", .array [.int 12, .float 1.5, .float (-1.0 / 0.0), .null, .bool true, .array []]),
      ("options", .object [("", .string "")])])

theorem nestedRequest_writable : nestedRequest.Writable := by
  refine ⟨?_, by decide, trivial, ⟨?_, ?_, ?_, trivial, trivial, trivial, trivial⟩,
    ⟨by decide, trivial, trivial⟩, trivial⟩
  · show (Number.digits 7).length ≤ Text.digitLimit
    decide
  · show (Number.digits 12).length ≤ Text.digitLimit
    decide
  · intro _
    decide +kernel
  · intro hfinite
    exact absurd hfinite (by decide)

theorem frame_nestedRequest : nestedRequest.Writable ∧
    ∃ text : String,
      nestedRequest.frame =
        Text.utf8 ("Content-Length: " ++ toString (Text.utf8 text).length ++ "\r\n\r\n") ++
          Text.utf8 text ∧
      Json.read text.toList = .ok nestedRequest.payload ∧
      (nestedRequest.payload.hasField "params" = true ↔
        ∃ params, nestedRequest.params? = some params ∧ params ≠ .null) ∧
      readBody (Text.utf8 text) = .ok nestedRequest :=
  ⟨nestedRequest_writable, frame_eq_header_append_text nestedRequest_writable⟩

end ClassOrder
