import ClassOrder.Json.Value
import ClassOrder.Number.Decimal
import ClassOrder.Number.Read

/-!
# Messages

The three kinds of message that a session exchanges with its server, as version 2.0 of the
remote-call convention over JSON lays them down: a request expects a response with its own
identifier, a notification expects nothing, and a response answers a request with a result or an
error.

## Main definitions

* `MessageId`, `ErrorObject`, `Message` — the messages.
* `Message.payload` — the JSON object that a message is written as.
* `readRequest`, `readNotification`, `readResponse` — a message of a given kind from the fields
  of an object, or the fields that are wrong.
* `Message.ofPayload` — the message that a JSON value writes, its kind told by its fields.
-/

namespace ClassOrder

/-- What tells the requests of one side apart. -/
inductive MessageId where
  | number (n : Int)
  | text (s : String)
  deriving DecidableEq, Inhabited

/-- The error of a response. -/
structure ErrorObject where
  /-- The number of the error. -/
  code : Int
  /-- Its text. -/
  message : String
  /-- Details, null if there are none. -/
  data : Json := .null
  deriving Inhabited

/-- A message. -/
inductive Message where
  /-- A call that expects a response with the same identifier. -/
  | request (id : MessageId) (method : String) (params : Json)
  /-- A call that expects nothing. -/
  | notification (method : String) (params : Json)
  /-- The answer to a request; an answer to no request in particular has no identifier. -/
  | response (id : Option MessageId) (result : Json) (error : Option ErrorObject)
  deriving Inhabited

/-- Why a body is not a message. -/
inductive DecodeFault where
  /-- It is not JSON in UTF-8. -/
  | notJson
  /-- It is JSON of another kind than an object. -/
  | notObject (kind : String)
  /-- It has a result and an error. -/
  | resultAndError
  /-- It has neither a method nor an identifier. -/
  | unclassified
  /-- Some of its fields are wrong. -/
  | wrongFields (fields : List String)
  deriving DecidableEq, Repr

/-- The text of a fault in reports. -/
def DecodeFault.message : DecodeFault → String
  | notJson => "Message body is not valid JSON"
  | notObject kind => "Expected a JSON object, got " ++ kind
  | resultAndError => "Response carries both result and error"
  | unclassified => "Message has neither a method nor an id"
  | wrongFields _ => "Invalid JSON-RPC message"

/-! ### Writing -/

/-- An identifier as JSON. -/
def MessageId.payload : MessageId → Json
  | number n => .int n
  | text s => .string s

/-- The text of an identifier in reports. -/
def MessageId.shown : MessageId → String
  | number n => toString n
  | text s => s

/-- A field that is left out when its value is null. -/
def optionalField (name : String) (v : Json) : List (String × Json) :=
  if v.isNull then [] else [(name, v)]

/-- An error as JSON. -/
def ErrorObject.payload (e : ErrorObject) : Json :=
  .object (("code", .int e.code) :: ("message", .string e.message) :: optionalField "data" e.data)

/-- The version field that leads every message. -/
def versionField : String × Json := ("jsonrpc", .string "2.0")

namespace Message

/-- The JSON object that a message is written as. -/
def payload : Message → Json
  | request id method params =>
    .object (versionField :: ("id", id.payload) :: ("method", .string method) ::
      optionalField "params" params)
  | notification method params =>
    .object (versionField :: ("method", .string method) :: optionalField "params" params)
  | response id result error =>
    .object [versionField, ("id", (id.map MessageId.payload).getD .null),
      match error with
      | some e => ("error", e.payload)
      | none => ("result", result)]

/-- The method of a call. -/
def method? : Message → Option String
  | request _ method _ => some method
  | notification method _ => some method
  | response .. => none

end Message

/-! ### Reading -/

/-- The whole value of a double that fits in sixty-four signed bits, the least of them left out. -/
def wordValue? (x : Float) : Option Int :=
  match Number.wholeValue? x with
  | some n => if -0x8000000000000000 < n ∧ n < 0x8000000000000000 then some n else none
  | none => none

/-- An identifier: a text, a whole number, a truth value as zero or one, or a whole double. -/
def readId? : Json → Option MessageId
  | .string s => some (.text s)
  | .int n => some (.number n)
  | .bool b => some (.number (if b then 1 else 0))
  | .float x => (wordValue? x).map .number
  | _ => none

/-- The number that a text writes: spaces around it, and a number in the loose form. -/
def writtenCode? (s : String) : Option Int := Number.looseInteger? (Text.trimSpaces s.toList)

/-- The number of an error: as an identifier that is a number, or a text that writes one. -/
def readCode? : Json → Option Int
  | .string s => writtenCode? s
  | v => match readId? v with
    | some (.number n) => some n
    | _ => none

/-- Whether the version field is absent or right. -/
def versionOk (v : Json) : Bool :=
  match v.field? "jsonrpc" with
  | none => true
  | some (.string s) => s == "2.0"
  | some _ => false

/-- A field that must hold a text. -/
def textField? (name : String) (v : Json) : Option String :=
  match v.field? name with
  | some (.string s) => some s
  | _ => none

/-- The name of a field that is wrong, if it is. -/
def wrong (name : String) (ok : Bool) : List String := if ok then [] else [name]

/-- The error of a response: absent or null for none; else an object with a number and a text, or
the names of what is wrong. -/
def readError (v : Json) : Except (List String) (Option ErrorObject) :=
  match v.fieldOrNull "error" with
  | .null => .ok none
  | .object fields =>
    let e : Json := .object fields
    match (e.field? "code").bind readCode?, textField? "message" e with
    | some code, some message => .ok (some ⟨code, message, e.fieldOrNull "data"⟩)
    | code, message =>
      .error (wrong "error.code" code.isSome ++ wrong "error.message" message.isSome)
  | _ => .error ["error"]

/-- A request from the fields of an object, or the names of the fields that are wrong. -/
def readRequest (v : Json) : Except (List String) Message :=
  match (v.field? "id").bind readId?, versionOk v, textField? "method" v with
  | some id, true, some method => .ok (.request id method (v.fieldOrNull "params"))
  | id, version, method =>
    .error (wrong "id" id.isSome ++ wrong "jsonrpc" version ++ wrong "method" method.isSome)

/-- A notification from the fields of an object, or the names of the fields that are wrong. -/
def readNotification (v : Json) : Except (List String) Message :=
  match versionOk v, textField? "method" v with
  | true, some method => .ok (.notification method (v.fieldOrNull "params"))
  | version, method => .error (wrong "jsonrpc" version ++ wrong "method" method.isSome)

/-- The identifier of a response, which may be null or absent; `none` if it is wrong. -/
def readResponseId? (v : Json) : Option (Option MessageId) :=
  match v.fieldOrNull "id" with
  | .null => some none
  | w => (readId? w).map some

/-- A response from the fields of an object, or the names of the fields that are wrong. -/
def readResponse (v : Json) : Except (List String) Message :=
  match readError v, readResponseId? v, versionOk v with
  | .ok error, some id, true => .ok (.response id (v.fieldOrNull "result") error)
  | error, id, version =>
    let wrongError := match error with
      | .ok _ => []
      | .error names => names
    .error (wrongError ++ wrong "id" id.isSome ++ wrong "jsonrpc" version)

/-- The message that a JSON value writes.  An object with a method is a request if it has an
identifier and a notification if not; one with an identifier alone is a response. -/
def Message.ofPayload (v : Json) : Except DecodeFault Message :=
  if !v.isObject then .error (.notObject v.kind)
  else if v.hasField "method" then
    (if v.hasField "id" then readRequest v else readNotification v).mapError .wrongFields
  else if v.hasField "id" then
    if v.hasField "result" && !(v.fieldOrNull "error").isNull then .error .resultAndError
    else (readResponse v).mapError .wrongFields
  else .error .unclassified

end ClassOrder
