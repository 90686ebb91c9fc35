import ClassOrder.Proofs.Message
import ClassOrder.Proofs.Number.Loose
import ClassOrder.Proofs.Number.Whole
import ClassOrder.Proofs.Text.Trim

/-!
# Which values are messages

The reader of messages takes more than the writer gives: truth values and whole doubles for numbers,
texts for the number of an error, fields that nobody asked for.  What it takes is a grammar over
JSON values, in which the fields that an object has decide the kind of its message.  Whatever is
taken is written in one way, and read back from it as it was.

## Main definitions

* `WritesNumber`, `WritesId`, `WritesCode` — the values that write numbers and identifiers.
* `WritesError` — the values that write the error of a response, or that there is none.
* `WritesMessage` — **the grammar of messages.**
* `DecodeFault.Explains` — what a fault says about the value that it is the answer to.

## Main results

* `Message.ofPayload_eq_ok_iff` — a message is read just where the grammar has one.
* `Message.explains_of_ofPayload` — a fault names what is wrong.
* `Message.ofPayload_followsGrammar` — **reading follows the grammar, and is stable under writing
  again.**
-/

namespace ClassOrder

open Number Text

/-! ### The grammar -/

/-- The values that are numbers: a whole number, a truth value as zero or one, or a double that is
whole and fits in sixty-four signed bits, the least number of them left out. -/
inductive WritesNumber : Json → Int → Prop where
  | int (n : Int) : WritesNumber (.int n) n
  | bool (b : Bool) : WritesNumber (.bool b) b.toInt
  | float {x : Float} {n : Int} (hwhole : rational? x = some (n : ℚ)) (hlow : -2 ^ 63 < n)
      (hhigh : n < 2 ^ 63) : WritesNumber (.float x) n

/-- The values that are identifiers. -/
inductive WritesId : Json → MessageId → Prop where
  | text (s : String) : WritesId (.string s) (.text s)
  | number {v : Json} {n : Int} (h : WritesNumber v n) : WritesId v (.number n)

/-- The values that are numbers of errors: texts are so too, if they are a number in the loose form
with spaces around it. -/
inductive WritesCode : Json → Int → Prop where
  | number {v : Json} {n : Int} (h : WritesNumber v n) : WritesCode v n
  | text {s : String} {word : List Char} {n : Int} (hpadded : Padded (isSpace · = true) s.toList word)
      (hword : WritesLoosely word n) : WritesCode (.string s) n

/-- The version of an object is right, or it has none. -/
def WritesVersion (v : Json) : Prop :=
  v.field? "jsonrpc" = none ∨ v.field? "jsonrpc" = some (.string "2.0")

/-- The identifier of a response may be null. -/
inductive WritesResponseId : Json → Option MessageId → Prop where
  | null : WritesResponseId .null none
  | id {v : Json} {id : MessageId} (h : WritesId v id) : WritesResponseId v (some id)

/-- The error of a response: null for none, or an object with a number and a text. -/
inductive WritesError : Json → Option ErrorObject → Prop where
  | null : WritesError .null none
  | object {fields : List (String × Json)} {c : Json} {code : Int} {message : String}
      (hfield : (Json.object fields).field? "code" = some c) (hcode : WritesCode c code)
      (hmessage : (Json.object fields).field? "message" = some (.string message)) :
      WritesError (.object fields)
        (some ⟨code, message, (Json.object fields).fieldOrNull "data"⟩)

/-- The objects that are messages.  Other fields than the ones named here may be there and say
nothing; a field that may be absent may also be null. -/
inductive WritesMessage (fields : List (String × Json)) : Message → Prop where
  | request {w : Json} {id : MessageId} {method : String}
      (hversion : WritesVersion (.object fields))
      (hmethod : (Json.object fields).field? "method" = some (.string method))
      (hfield : (Json.object fields).field? "id" = some w) (hid : WritesId w id) :
      WritesMessage fields (.request id method ((Json.object fields).fieldOrNull "params"))
  | notification {method : String} (hversion : WritesVersion (.object fields))
      (hmethod : (Json.object fields).field? "method" = some (.string method))
      (hfield : (Json.object fields).field? "id" = none) :
      WritesMessage fields (.notification method ((Json.object fields).fieldOrNull "params"))
  | response {w : Json} {id : Option MessageId} {error : Option ErrorObject}
      (hversion : WritesVersion (.object fields))
      (hmethod : (Json.object fields).field? "method" = none)
      (hfield : (Json.object fields).field? "id" = some w) (hid : WritesResponseId w id)
      (herror : WritesError ((Json.object fields).fieldOrNull "error") error)
      (hone : (Json.object fields).field? "result" = none ∨
        (Json.object fields).fieldOrNull "error" = .null) :
      WritesMessage fields (.response id ((Json.object fields).fieldOrNull "result") error)

/-- The names under which fields are reported, for the fields of an object that are wrong. -/
inductive WrongField (v : Json) : String → Prop where
  | version (h : ¬ WritesVersion v) : WrongField v "jsonrpc"
  | method (h : ∀ text, v.field? "method" ≠ some (.string text)) : WrongField v "method"
  | id (h : ∀ w ∈ v.field? "id", ∀ id, ¬ WritesId w id) : WrongField v "id"
  | error (h : ∀ error, ¬ WritesError (v.fieldOrNull "error") error) : WrongField v "error"
  | code {fields : List (String × Json)} (herror : v.fieldOrNull "error" = .object fields)
      (h : ∀ c ∈ (Json.object fields).field? "code", ∀ n, ¬ WritesCode c n) :
      WrongField v "error.code"
  | message {fields : List (String × Json)} (herror : v.fieldOrNull "error" = .object fields)
      (h : ∀ text, (Json.object fields).field? "message" ≠ some (.string text)) :
      WrongField v "error.message"

/-- Some fields are named, and each of them is wrong. -/
def NamesWrong (v : Json) (names : List String) : Prop :=
  names ≠ [] ∧ ∀ name ∈ names, WrongField v name

/-- What a fault says about the value that it is the answer to. -/
def DecodeFault.Explains (v : Json) : DecodeFault → Prop
  | notJson => False
  | notObject kind => v.isObject = false ∧ kind = v.kind
  | resultAndError => (v.field? "result").isSome = true ∧ v.fieldOrNull "error" ≠ .null
  | unclassified => v.field? "method" = none ∧ v.field? "id" = none
  | wrongFields names => NamesWrong v names

/-! ### Numbers and identifiers -/

theorem wordValue?_eq_some_iff {x : Float} {n : Int} : wordValue? x = some n ↔
    rational? x = some (n : ℚ) ∧ -2 ^ 63 < n ∧ n < 2 ^ 63 := by
  rw [← wholeValue?_eq_some_iff, wordValue?]
  cases wholeValue? x with
  | none => simp
  | some m =>
    simp only [Option.ite_none_right_eq_some, Option.some_inj]
    constructor
    · rintro ⟨⟨hlow, hhigh⟩, rfl⟩
      exact ⟨rfl, hlow, hhigh⟩
    · rintro ⟨rfl, hlow, hhigh⟩
      exact ⟨⟨hlow, hhigh⟩, rfl⟩

theorem readId?_eq_some_iff {v : Json} {id : MessageId} : readId? v = some id ↔ WritesId v id := by
  constructor
  · intro h
    unfold readId? at h
    split at h
    next s => exact Option.some.inj h ▸ .text s
    next n => exact Option.some.inj h ▸ .number (.int n)
    next b =>
      obtain rfl := Option.some.inj h
      cases b
      · exact .number (.bool false)
      · exact .number (.bool true)
    next x =>
      obtain ⟨n, hword, rfl⟩ := Option.map_eq_some_iff.mp h
      obtain ⟨hwhole, hlow, hhigh⟩ := wordValue?_eq_some_iff.mp hword
      exact .number (.float hwhole hlow hhigh)
    next => cases h
  · rintro (s | ⟨n | b | ⟨hwhole, hlow, hhigh⟩⟩)
    · rfl
    · rfl
    · cases b <;> rfl
    · exact Option.map_eq_some_iff.mpr
        ⟨_, wordValue?_eq_some_iff.mpr ⟨hwhole, hlow, hhigh⟩, rfl⟩

theorem writtenCode?_eq_some_iff {s : String} {n : Int} : writtenCode? s = some n ↔
    ∃ word, Padded (isSpace · = true) s.toList word ∧ WritesLoosely word n := by
  rw [exists_padded_iff_trimSpaces fun word hword => bare_of_forall hword.not_space, writtenCode?,
    looseInteger?_eq_some_iff]

theorem writesId_number_iff {v : Json} {n : Int} : WritesId v (.number n) ↔ WritesNumber v n := by
  constructor
  · rintro ⟨⟩
    assumption
  · exact .number

theorem readCode?_eq_some_iff {v : Json} {n : Int} : readCode? v = some n ↔ WritesCode v n := by
  unfold readCode?
  split
  next s =>
    rw [writtenCode?_eq_some_iff]
    constructor
    · rintro ⟨word, hpadded, hword⟩
      exact .text hpadded hword
    · rintro (⟨⟨⟩⟩ | ⟨hpadded, hword⟩)
      exact ⟨_, hpadded, hword⟩
  next htext =>
    have hcode : WritesCode v n ↔ WritesNumber v n := by
      constructor
      · rintro (h | _)
        · exact h
        · exact absurd rfl (htext _)
      · exact .number
    rw [hcode, ← writesId_number_iff, ← readId?_eq_some_iff]
    split
    next m hread => simp [hread]
    next hread =>
      constructor
      · intro h
        cases h
      · exact fun h => absurd h (hread n)

/-! ### Fields -/

theorem versionOk_iff {v : Json} : versionOk v = true ↔ WritesVersion v := by
  unfold versionOk WritesVersion
  split
  next hfield => simp [hfield]
  next s hfield => simp [hfield]
  next w htext hfield =>
    have hne : w ≠ .string "2.0" := htext "2.0"
    simp [hfield, hne]

theorem textField?_eq_some_iff {name text : String} {v : Json} :
    textField? name v = some text ↔ v.field? name = some (.string text) := by
  unfold textField?
  split
  next s hfield => simp [hfield]
  next htext => simpa using htext text

theorem readError_eq_ok_iff {v : Json} {error : Option ErrorObject} :
    readError v = .ok error ↔ WritesError (v.fieldOrNull "error") error := by
  unfold readError
  generalize v.fieldOrNull "error" = w
  constructor
  · intro h
    split at h
    next =>
      cases h
      exact .null
    next fields =>
      dsimp only at h
      split at h
      next code message hcode hmessage =>
        cases h
        obtain ⟨c, hfield, hcode⟩ := Option.bind_eq_some_iff.mp hcode
        exact .object hfield (readCode?_eq_some_iff.mp hcode) (textField?_eq_some_iff.mp hmessage)
      next => cases h
    next => cases h
  · rintro (_ | ⟨hfield, hcode, hmessage⟩)
    · rfl
    · have hcode := Option.bind_eq_some_iff.mpr ⟨_, hfield, readCode?_eq_some_iff.mpr hcode⟩
      simp only [hcode, textField?_eq_some_iff.mpr hmessage]

theorem readResponseId?_eq_some_iff {v : Json} {id : Option MessageId} :
    readResponseId? v = some id ↔ WritesResponseId (v.fieldOrNull "id") id := by
  unfold readResponseId?
  generalize v.fieldOrNull "id" = w
  constructor
  · intro h
    split at h
    next =>
      cases h
      exact .null
    next =>
      obtain ⟨i, hread, rfl⟩ := Option.map_eq_some_iff.mp h
      exact .id (readId?_eq_some_iff.mp hread)
  · rintro (_ | hid)
    · rfl
    · have hread := readId?_eq_some_iff.mpr hid
      cases w with
      | null => cases hread
      | _ => simp only [hread, Option.map_some]

/-! ### The three kinds -/

theorem readRequest_eq_ok_iff {v : Json} {m : Message} : readRequest v = .ok m ↔
    ∃ w id method, WritesVersion v ∧ v.field? "method" = some (.string method) ∧
      v.field? "id" = some w ∧ WritesId w id ∧
      m = .request id method (v.fieldOrNull "params") := by
  unfold readRequest
  constructor
  · intro h
    split at h
    next id method hid hversion hmethod =>
      cases h
      obtain ⟨w, hfield, hread⟩ := Option.bind_eq_some_iff.mp hid
      exact ⟨w, id, method, versionOk_iff.mp hversion, textField?_eq_some_iff.mp hmethod, hfield,
        readId?_eq_some_iff.mp hread, rfl⟩
    next => cases h
  · rintro ⟨w, id, method, hversion, hmethod, hfield, hid, rfl⟩
    have hread := Option.bind_eq_some_iff.mpr ⟨w, hfield, readId?_eq_some_iff.mpr hid⟩
    simp only [hread, versionOk_iff.mpr hversion, textField?_eq_some_iff.mpr hmethod]

theorem readNotification_eq_ok_iff {v : Json} {m : Message} : readNotification v = .ok m ↔
    ∃ method, WritesVersion v ∧ v.field? "method" = some (.string method) ∧
      m = .notification method (v.fieldOrNull "params") := by
  unfold readNotification
  constructor
  · intro h
    split at h
    next method hversion hmethod =>
      cases h
      exact ⟨method, versionOk_iff.mp hversion, textField?_eq_some_iff.mp hmethod, rfl⟩
    next => cases h
  · rintro ⟨method, hversion, hmethod, rfl⟩
    simp only [versionOk_iff.mpr hversion, textField?_eq_some_iff.mpr hmethod]

theorem readResponse_eq_ok_iff {v : Json} {m : Message} : readResponse v = .ok m ↔
    ∃ id error, WritesVersion v ∧ WritesResponseId (v.fieldOrNull "id") id ∧
      WritesError (v.fieldOrNull "error") error ∧
      m = .response id (v.fieldOrNull "result") error := by
  unfold readResponse
  constructor
  · intro h
    split at h
    next error id herror hid hversion =>
      cases h
      exact ⟨id, error, versionOk_iff.mp hversion, readResponseId?_eq_some_iff.mp hid,
        readError_eq_ok_iff.mp herror, rfl⟩
    next => cases h
  · rintro ⟨id, error, hversion, hid, herror, rfl⟩
    simp only [readError_eq_ok_iff.mpr herror, readResponseId?_eq_some_iff.mpr hid,
      versionOk_iff.mpr hversion]

/-! ### What is wrong with a value -/

theorem mem_wrong_iff {name field : String} {ok : Bool} :
    name ∈ wrong field ok ↔ ok = false ∧ name = field := by
  cases ok <;> simp [wrong]

theorem wrong_eq_nil_iff {field : String} {ok : Bool} : wrong field ok = [] ↔ ok = true := by
  cases ok <;> simp [wrong]

section

variable {v : Json} {names : List String}

theorem WrongField.of_versionOk (h : versionOk v = false) : WrongField v "jsonrpc" :=
  .version fun hversion => by simp [versionOk_iff.mpr hversion] at h

theorem ne_string_of_textField? {name : String} (h : (textField? name v).isSome = false)
    (text : String) : v.field? name ≠ some (.string text) := fun hfield => by
  simp [textField?_eq_some_iff.mpr hfield] at h

theorem namesWrong_of_readError (h : readError v = .error names) : NamesWrong v names := by
  unfold readError at h
  generalize herror : v.fieldOrNull "error" = w at h
  split at h
  next => cases h
  next fields =>
    dsimp only at h
    split at h
    next => cases h
    next code message hnone =>
      obtain rfl := Except.error.inj h
      refine ⟨fun hnil => ?_, fun name hname => ?_⟩
      · -- with both fields right, the error would have been read
        simp only [List.append_eq_nil_iff, wrong_eq_nil_iff, Option.isSome_iff_exists] at hnil
        obtain ⟨⟨code, hcode⟩, message, hmessage⟩ := hnil
        exact hnone code message hcode hmessage
      · rw [List.mem_append, mem_wrong_iff, mem_wrong_iff] at hname
        rcases hname with ⟨hcode, rfl⟩ | ⟨hmessage, rfl⟩
        · refine .code herror fun c hfield n hwrites => ?_
          have hsome := Option.bind_eq_some_iff.mpr ⟨c, hfield, readCode?_eq_some_iff.mpr hwrites⟩
          rw [hsome] at hcode
          cases hcode
        · exact .message herror (ne_string_of_textField? hmessage)
  next hnull hobject =>
    obtain rfl := Except.error.inj h
    refine ⟨List.cons_ne_nil _ _, fun name hname => ?_⟩
    obtain rfl := List.mem_singleton.mp hname
    refine .error fun error hwrites => ?_
    rw [herror] at hwrites
    cases hwrites with
    | null => exact hnull rfl
    | object => exact hobject _ rfl

theorem namesWrong_of_readRequest (h : readRequest v = .error names) : NamesWrong v names := by
  unfold readRequest at h
  split at h
  next => cases h
  next id version method hnone =>
    obtain rfl := Except.error.inj h
    refine ⟨fun hnil => ?_, fun name hname => ?_⟩
    · simp only [List.append_eq_nil_iff, wrong_eq_nil_iff, Option.isSome_iff_exists] at hnil
      obtain ⟨⟨⟨id, hid⟩, hversion⟩, method, hmethod⟩ := hnil
      exact hnone id method hid hversion hmethod
    · simp only [List.mem_append, mem_wrong_iff] at hname
      rcases hname with (⟨hid, rfl⟩ | ⟨hversion, rfl⟩) | ⟨hmethod, rfl⟩
      · refine .id fun w hfield id hwrites => ?_
        have hsome := Option.bind_eq_some_iff.mpr ⟨w, hfield, readId?_eq_some_iff.mpr hwrites⟩
        simp [hsome] at hid
      · exact .of_versionOk hversion
      · exact .method (ne_string_of_textField? hmethod)

theorem namesWrong_of_readNotification (h : readNotification v = .error names) :
    NamesWrong v names := by
  unfold readNotification at h
  split at h
  next => cases h
  next version method hnone =>
    obtain rfl := Except.error.inj h
    refine ⟨fun hnil => ?_, fun name hname => ?_⟩
    · simp only [List.append_eq_nil_iff, wrong_eq_nil_iff, Option.isSome_iff_exists] at hnil
      obtain ⟨hversion, method, hmethod⟩ := hnil
      exact hnone method hversion hmethod
    · simp only [List.mem_append, mem_wrong_iff] at hname
      rcases hname with ⟨hversion, rfl⟩ | ⟨hmethod, rfl⟩
      · exact .of_versionOk hversion
      · exact .method (ne_string_of_textField? hmethod)

theorem namesWrong_of_readResponse (h : readResponse v = .error names) : NamesWrong v names := by
  unfold readResponse at h
  split at h
  next => cases h
  next error id version hnone =>
    obtain rfl := Except.error.inj h
    refine ⟨fun hnil => ?_, fun name hname => ?_⟩
    · simp only [List.append_eq_nil_iff, wrong_eq_nil_iff, Option.isSome_iff_exists] at hnil
      obtain ⟨⟨herror, id, hid⟩, hversion⟩ := hnil
      -- an error that is wrong names something itself
      cases hread : readError v with
      | ok error => exact hnone error id hread hid hversion
      | error names =>
        rw [hread] at herror
        exact (namesWrong_of_readError hread).1 herror
    · simp only [List.mem_append, mem_wrong_iff] at hname
      rcases hname with (herror | ⟨hid, rfl⟩) | ⟨hversion, rfl⟩
      · cases hread : readError v with
        | ok error => simp [hread] at herror
        | error names =>
          rw [hread] at herror
          exact (namesWrong_of_readError hread).2 name herror
      · refine .id fun w hfield id hwrites => ?_
        have hnull : v.fieldOrNull "id" = w := by rw [Json.fieldOrNull, hfield]; rfl
        have hsome := readResponseId?_eq_some_iff.mpr (hnull ▸ WritesResponseId.id hwrites)
        simp [hsome] at hid
      · exact .of_versionOk hversion

end

/-! ### Messages -/

section

variable {α ε ε' : Type} {f : ε → ε'} {x : Except ε α}

theorem mapError_eq_ok_iff {a : α} : x.mapError f = .ok a ↔ x = .ok a := by
  cases x <;> simp [Except.mapError]

theorem exists_of_mapError_eq_error {e : ε'} (h : x.mapError f = .error e) :
    ∃ d, x = .error d ∧ f d = e := by
  cases x with
  | error d => exact ⟨d, rfl, Except.error.inj h⟩
  | ok a => cases h

end

namespace Json

theorem isObject_iff {v : Json} : v.isObject = true ↔ ∃ fields, v = .object fields := by
  cases v <;> simp [isObject]

theorem hasField_iff {name : String} {v : Json} :
    v.hasField name = true ↔ ∃ w, v.field? name = some w := Option.isSome_iff_exists

theorem hasField_eq_false_iff {name : String} {v : Json} :
    v.hasField name = false ↔ v.field? name = none :=
  Option.isSome_eq_false_iff.trans Option.isNone_iff_eq_none

theorem isNull_iff {v : Json} : v.isNull = true ↔ v = .null := by
  cases v <;> simp [isNull]

theorem fieldOrNull_of_field? {name : String} {v w : Json} (h : v.field? name = some w) :
    v.fieldOrNull name = w := by
  rw [fieldOrNull, h]
  rfl

end Json

namespace Message

/-- The guard of a response says that its result and its error are not both there. -/
theorem both_eq_false_iff {v : Json} :
    (v.hasField "result" && !(v.fieldOrNull "error").isNull) = false ↔
      v.field? "result" = none ∨ v.fieldOrNull "error" = .null := by
  rw [Bool.and_eq_false_iff, Json.hasField_eq_false_iff, Bool.not_eq_false', Json.isNull_iff]

/-- **Where messages are read**: a value is read as a message if it is an object that the grammar
has for it. -/
theorem ofPayload_eq_ok_iff {v : Json} {m : Message} :
    ofPayload v = .ok m ↔ ∃ fields, v = .object fields ∧ WritesMessage fields m := by
  constructor
  · intro h
    rw [ofPayload] at h
    split_ifs at h with hobject hmethod hid hid hboth
    · -- a method makes it a request, or without a number a notification
      obtain ⟨fields, rfl⟩ := Json.isObject_iff.mp (by simpa using hobject)
      obtain ⟨w, id, method, hversion, hmethod, hfield, hid, rfl⟩ :=
        readRequest_eq_ok_iff.mp (mapError_eq_ok_iff.mp h)
      exact ⟨fields, rfl, .request hversion hmethod hfield hid⟩
    · obtain ⟨fields, rfl⟩ := Json.isObject_iff.mp (by simpa using hobject)
      obtain ⟨method, hversion, hmethod, rfl⟩ :=
        readNotification_eq_ok_iff.mp (mapError_eq_ok_iff.mp h)
      exact ⟨fields, rfl, .notification hversion hmethod
        (Json.hasField_eq_false_iff.mp (Bool.eq_false_iff.mpr hid))⟩
    · obtain ⟨fields, rfl⟩ := Json.isObject_iff.mp (by simpa using hobject)
      obtain ⟨w, hfield⟩ := Json.hasField_iff.mp hid
      obtain ⟨id, error, hversion, hwrites, herror, rfl⟩ :=
        readResponse_eq_ok_iff.mp (mapError_eq_ok_iff.mp h)
      rw [Json.fieldOrNull_of_field? hfield] at hwrites
      exact ⟨fields, rfl, .response hversion
        (Json.hasField_eq_false_iff.mp (Bool.eq_false_iff.mpr hmethod)) hfield hwrites herror
        (both_eq_false_iff.mp (Bool.eq_false_iff.mpr hboth))⟩
  · rintro ⟨fields, rfl, hmessage⟩
    have hobject : ¬ (!(Json.object fields).isObject) = true := Bool.false_ne_true
    rw [ofPayload, if_neg hobject]
    cases hmessage with
    | request hversion hmethod hfield hid =>
      rw [if_pos (Json.hasField_iff.mpr ⟨_, hmethod⟩), if_pos (Json.hasField_iff.mpr ⟨_, hfield⟩)]
      exact mapError_eq_ok_iff.mpr (readRequest_eq_ok_iff.mpr
        ⟨_, _, _, hversion, hmethod, hfield, hid, rfl⟩)
    | notification hversion hmethod hfield =>
      rw [if_pos (Json.hasField_iff.mpr ⟨_, hmethod⟩),
        if_neg (Bool.eq_false_iff.mp (Json.hasField_eq_false_iff.mpr hfield))]
      exact mapError_eq_ok_iff.mpr (readNotification_eq_ok_iff.mpr ⟨_, hversion, hmethod, rfl⟩)
    | response hversion hmethod hfield hid herror hone =>
      rw [if_neg (Bool.eq_false_iff.mp (Json.hasField_eq_false_iff.mpr hmethod)),
        if_pos (Json.hasField_iff.mpr ⟨_, hfield⟩),
        if_neg (Bool.eq_false_iff.mp (both_eq_false_iff.mpr hone))]
      rw [← Json.fieldOrNull_of_field? hfield] at hid
      exact mapError_eq_ok_iff.mpr (readResponse_eq_ok_iff.mpr ⟨_, _, hversion, hid, herror, rfl⟩)

/-- A fault says what is wrong with the value that it is the answer to. -/
theorem explains_of_ofPayload {v : Json} {fault : DecodeFault} (h : ofPayload v = .error fault) :
    fault.Explains v := by
  rw [ofPayload] at h
  split_ifs at h with hobject hmethod hid hid hboth
  · cases h
    exact ⟨by simpa using hobject, rfl⟩
  · obtain ⟨names, hread, rfl⟩ := exists_of_mapError_eq_error h
    exact namesWrong_of_readRequest hread
  · obtain ⟨names, hread, rfl⟩ := exists_of_mapError_eq_error h
    exact namesWrong_of_readNotification hread
  · cases h
    rw [Bool.and_eq_true, Bool.not_eq_true', ← Bool.not_eq_true, Json.isNull_iff] at hboth
    exact hboth
  · obtain ⟨names, hread, rfl⟩ := exists_of_mapError_eq_error h
    exact namesWrong_of_readResponse hread
  · cases h
    exact ⟨Json.hasField_eq_false_iff.mp (Bool.eq_false_iff.mpr hmethod),
      Json.hasField_eq_false_iff.mp (Bool.eq_false_iff.mpr hid)⟩

/-- A response that was read has a result or an error, not both. -/
theorem oneOutcome_of_ofPayload {v : Json} {m : Message} (h : ofPayload v = .ok m) :
    m.OneOutcome := by
  obtain ⟨fields, rfl, hmessage⟩ := ofPayload_eq_ok_iff.mp h
  cases hmessage with
  | request => trivial
  | notification => trivial
  | response hversion hmethod hfield hid herror hone =>
    rcases hone with hresult | hnull
    · exact .inr (by rw [Json.fieldOrNull, hresult]; rfl)
    · rw [hnull] at herror
      cases herror
      exact .inl rfl

/-- **Reading messages follows their grammar and is stable.**  A value is read as a message just
where the grammar has one for it, and as that one; any other value gets a fault that says what is
wrong with it.  What is read has one outcome at most, and is read again from the object that it is
written as. -/
theorem ofPayload_followsGrammar (v : Json) :
    (∀ m, ofPayload v = .ok m ↔ ∃ fields, v = .object fields ∧ WritesMessage fields m) ∧
    ((¬ ∃ fields m, v = .object fields ∧ WritesMessage fields m) →
      ∃ fault, ofPayload v = .error fault ∧ fault.Explains v) ∧
    ∀ m, ofPayload v = .ok m → m.OneOutcome ∧ ofPayload m.payload = .ok m := by
  refine ⟨fun m => ofPayload_eq_ok_iff, fun hnone => ?_, fun m hread => ?_⟩
  · cases hread : ofPayload v with
    | error fault => exact ⟨fault, rfl, explains_of_ofPayload hread⟩
    | ok m =>
      obtain ⟨fields, hobject, hmessage⟩ := ofPayload_eq_ok_iff.mp hread
      exact absurd ⟨fields, m, hobject, hmessage⟩ hnone
  · -- one outcome is all that writing again needs: the numbers and texts are plain by now
    have hone := oneOutcome_of_ofPayload hread
    exact ⟨hone, hone.ofPayload_payload⟩

/-- A response to the first request, with a truth value for its number and spaces, zeros and an
underscore in the text of its error's number. -/
def laxResponse : Json :=
  .object [("error", .object [("message", .string "m"), ("code", .string " +00_1_0.00 ")]),
    ("id", .bool true), ("params", .array [.null])]

/-- A response with an error, and with a result, which is too much even where it is null. -/
def twofoldResponse : Json :=
  .object [("id", .null), ("result", .null), ("error", .object [("code", .int 1)])]

theorem ofPayload_followsGrammar_laxResponse :
    let m : Message := .response (some (.number 1)) .null (some ⟨10, "m", .null⟩)
    (ofPayload laxResponse = .ok m ∧
      (∃ fields, laxResponse = .object fields ∧ WritesMessage fields m) ∧
      m.OneOutcome ∧ ofPayload m.payload = .ok m) ∧
    ((¬ ∃ fields m, twofoldResponse = .object fields ∧ WritesMessage fields m) ∧
      ∃ fault, ofPayload twofoldResponse = .error fault ∧ fault.Explains twofoldResponse) := by
  obtain ⟨hgrammar, -, hstable⟩ := ofPayload_followsGrammar laxResponse
  have hread : ofPayload laxResponse =
      .ok (.response (some (.number 1)) .null (some ⟨10, "m", .null⟩)) := rfl
  obtain ⟨htwofold, hfault, -⟩ := ofPayload_followsGrammar twofoldResponse
  have hnone : ¬ ∃ fields m, twofoldResponse = .object fields ∧ WritesMessage fields m := by
    rintro ⟨fields, m, hmessage⟩
    have hrefused : ofPayload twofoldResponse = .error .resultAndError := rfl
    rw [(htwofold m).mpr ⟨fields, hmessage⟩] at hrefused
    cases hrefused
  exact ⟨⟨hread, (hgrammar _).mp hread, hstable _ hread⟩, hnone, hfault hnone⟩

/-! ### Two edges of the grammar -/

/-- The least number of sixty-four signed bits, as a double. -/
def leastWord : Float := -9223372036854775808.0

/-- **Two edges of the grammar.**  The least number of sixty-four bits is whole, and no identifier
as a double.  A minus sign that a zero stands before is neither a sign at the start nor between
grouped digits and a point with zeros, and yet the text that it stands in is the number of an
error. -/
theorem ofPayload_leastWord_and_lateSign :
    (rational? leastWord = some (((-2 ^ 63 : ℤ)) : ℚ) ∧
      ofPayload (.object [("id", .float leastWord), ("method", .string "m")]) =
        .error (.wrongFields ["id"])) ∧
    ((∀ mark negative text digits fraction, IsSign mark negative → Grouped text digits →
        IsZeroFraction fraction → trimSpaces "0-5".toList ≠ mark ++ (text ++ fraction)) ∧
      ofPayload (.object [("id", .int 1), ("error", .object [("code", .string "0-5"),
        ("message", .string "m")])]) =
          .ok (.response (some (.number 1)) .null (some ⟨-5, "m", .null⟩))) := by
  have hleast : wordValue? leastWord = none := by decide +kernel
  refine ⟨⟨(wholeValue?_eq_some_iff _ _).mp (by decide +kernel), ?_⟩, ?_, rfl⟩
  · simp [ofPayload, Json.isObject, Json.hasField, Assoc.get?, readRequest, versionOk, textField?,
      readId?, hleast, Except.mapError, wrong]
  · intro mark negative text digits fraction hmark htext hfraction heq
    have hword : trimSpaces "0-5".toList = ['0', '-', '5'] := by decide +kernel
    rw [hword] at heq
    obtain ⟨d, rest, more, rfl, -, hd⟩ := htext.exists_cons
    cases hmark with
    | plus => exact absurd (List.cons.inj heq).1 (by decide)
    | minus => exact absurd (List.cons.inj heq).1 (by decide)
    | absent =>
      have hmem : '-' ∈ (d :: rest) ++ fraction := by
        rw [← List.nil_append ((d :: rest) ++ fraction), ← heq]
        decide
      rcases List.mem_append.mp hmem with hin | hin
      · rcases htext.of_mem_text hin with hdigit | hunderscore
        · exact absurd hdigit (by decide)
        · exact absurd hunderscore (by decide)
      · rcases hfraction with rfl | ⟨count, rfl⟩
        · cases hin
        · rcases List.mem_cons.mp hin with hpoint | hzero
          · exact absurd hpoint (by decide)
          · exact absurd (List.eq_of_mem_replicate hzero) (by decide)

end Message

end ClassOrder
