import ClassOrder.Fault
import ClassOrder.Server.Method

/-!
# Replies to the server

The server may call back at any time.  Its notifications get no reply.  Its requests for settings
get the settings they ask for, one entry for each item, and its other requests get null, since a
server that asks waits for the answer.

## Main definitions

* `Preferences` — the settings that the server may ask for.
* `settingsReply` — the answer to a request for settings.
* `replyTo` — the reply to a message of the server, if one is due.
-/

namespace ClassOrder

/-- The settings that the server may ask for. -/
structure Preferences where
  /-- The settings of the section `tailwindCSS`. -/
  tailwind : Json
  /-- The settings of every other section. -/
  editor : Json

namespace Preferences

/-- The section that has settings of its own. -/
def sectionName : String := "tailwindCSS"

/-- The settings of the section `tailwindCSS` when none are given. -/
def defaultTailwind : Json :=
  .object [("experimental", .object [("classRegex", .array [])]),
    ("includeLanguages", .object []), ("validate", .bool true)]

/-- The settings of the editor when none are given. -/
def defaultEditor : Json := .object [("tabSize", .int 4), ("insertSpaces", .bool true)]

/-- The given settings; null and empty ones are as good as none. -/
def ofGiven (tailwind editor : Json) : Preferences :=
  ⟨if tailwind.isFilled then tailwind else defaultTailwind,
    if editor.isFilled then editor else defaultEditor⟩

/-- The settings when none are given. -/
def standard : Preferences := ⟨defaultTailwind, defaultEditor⟩

/-- The settings of a section. -/
def settingsFor (p : Preferences) : Json → Json
  | .string s => if s = sectionName then p.tailwind else p.editor
  | _ => p.editor

/-- The settings that one item of a request asks for. -/
def settingsForItem (p : Preferences) (item : Json) : Json :=
  p.settingsFor (item.fieldOrNull "section")

end Preferences

/-- The values that a request for settings runs through: those of a list, the characters of a
text, the names of an object; nothing else can be run through. -/
def itemsOf? : Json → Option (List Json)
  | .array items => some items
  | .string s => some (s.toList.map fun c => .string (String.singleton c))
  | .object fields => some (fields.map fun f => .string f.1)
  | _ => none

/-- The answer to a request for settings: one entry for each item, the settings of the editor
alone if there are no items. -/
def settingsReply {τ : Type} (p : Preferences) (params : Json) : Except (Fault τ) Json :=
  let items := params.fieldOrNull "items"
  if items.isFilled then
    match itemsOf? items with
    | some items => .ok (.array (items.map p.settingsForItem))
    | none => .error .wrongType
  else .ok (.array [p.editor])

/-- The reply to a message of the server, if one is due. -/
def replyTo {τ : Type} (p : Preferences) : Message → Except (Fault τ) (Option Message)
  | .request id method params =>
    if method = Method.configuration then
      match settingsReply p params with
      | .ok result => .ok (some (.response (some id) result none))
      | .error fault => .error fault
    else .ok (some (.response (some id) .null none))
  | .notification .. => .ok none
  | .response .. => .ok none

/-- What the log says about a message of the server before it is replied to. -/
def replyNote? : Message → Option String
  | .request _ method _ =>
    if method = Method.configuration then none
    else some ("Answering unsupported server request " ++ method ++ " with null")
  | .notification method _ => some ("Ignoring server notification " ++ method)
  | .response .. => none

end ClassOrder
