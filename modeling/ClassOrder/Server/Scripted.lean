import ClassOrder.Server.Basic
import ClassOrder.Server.Method

/-!
# Scripted servers

A server that follows rules: for each method, batches of what it does when a message with that
method arrives, one batch for each such message, the last one over and over.  A message without a
method is a response, for which there may be batches too.  Unless told otherwise, a scripted
server ends when it reads the message that asks it to, and when it is told to.

## Main definitions

* `ScriptedDeed` — what a scripted server does.
* `Rules`, `Rules.react` — the rules, and what they say.
* `Rules.conduct` — the conduct of a server that follows rules.
-/

namespace ClassOrder

/-- Something that a scripted server does. -/
inductive ScriptedDeed (τ : Type) where
  /-- It answers the message with a result. -/
  | answer (result : Json)
  /-- It answers the message with an error. -/
  | refuse (error : Json)
  /-- It sends a message of its own. -/
  | say (payload : Json)
  /-- It does something else. -/
  | plain (deed : Deed τ)

/-- The rules of a scripted server. -/
structure Rules (τ : Type) where
  /-- What it does when it is launched. -/
  opening : List (ScriptedDeed τ) := []
  /-- The batches, by method. -/
  batches : List (String × List (List (ScriptedDeed τ))) := []
  /-- Whether it goes on when a message asks it to end. -/
  ignoresExit : Bool := false
  /-- Whether it goes on when it is told to end. -/
  ignoresTermination : Bool := false
  /-- The lines of its complaints. -/
  complaints : List Bytes := []
  /-- What closing its input fails with. -/
  closeFault : Option (Fault τ) := none

/-- The frame with a given payload. -/
def frameOf (payload : Json) : Bytes :=
  let body := Text.utf8 payload.compact
  lengthHeader body.length ++ body

/-- The identifier of a message, null if it has none. -/
def Message.idOrNull : Message → Json
  | request id _ _ => id.payload
  | notification .. => .null
  | response id _ _ => (id.map MessageId.payload).getD .null

/-- The key under which a message has its batches. -/
def Message.ruleKey (m : Message) : String := m.method?.getD "response"

variable {τ : Type}

/-- What a scripted server does, when the message it reacts to has a given identifier. -/
def ScriptedDeed.deed (id : Json) : ScriptedDeed τ → Deed τ
  | answer result =>
    .write (.data (frameOf (.object [versionField, ("id", id), ("result", result)])))
  | refuse error =>
    .write (.data (frameOf (.object [versionField, ("id", id), ("error", error)])))
  | say payload => .write (.data (frameOf payload))
  | plain deed => deed

namespace Rules

/-- The batch for the `n`-th message with a key, counted from zero: the last one when there are no
more. -/
def batch (r : Rules τ) (key : String) (n : Nat) : List (ScriptedDeed τ) :=
  let batches := (Assoc.get? key r.batches).getD []
  batches.getD (min n (batches.length - 1)) []

/-- What the rules say to do when a message arrives, given all that have arrived. -/
def react (r : Rules τ) (received : List Message) : List (Deed τ) :=
  match received.getLast? with
  | none => []
  | some m =>
    let earlier := (received.dropLast.filter (·.ruleKey = m.ruleKey)).length
    (r.batch m.ruleKey earlier).map (·.deed m.idOrNull) ++
      (if m.ruleKey = Method.exit && !r.ignoresExit then [.exit 0] else [])

/-- The conduct of a server that follows rules. -/
def conduct (r : Rules τ) : Conduct τ where
  opening := r.opening.map (·.deed .null)
  react := r.react
  leaves := fun nudges _ =>
    if nudges.contains .terminated && !r.ignoresTermination then some (-15) else none
  complaints := r.complaints
  inputCloseFault := r.closeFault

end Rules

end ClassOrder
