import ClassOrder.Json.Value
import ClassOrder.Text.Digit

/-!
# Server versions

A version is the first run of numbers joined by points in a text.  Versions are compared number
by number, missing numbers counting as zero.  A server that is older than the oldest supported
one is used all the same, with a warning.

## Main definitions

* `Version.parse` — the version in a text.
* `Version.older` — whether one version comes before another.
* `reportedVersion` — the version that a server reports in its answer to the handshake.
* `checkVersion` — the warning that it deserves, if it does.
-/

namespace ClassOrder

/-- The numbers of a version, the most significant first. -/
abbrev Version := List Nat

/-- A number has more digits than a written integer may have. -/
structure TooManyDigits where
  deriving DecidableEq, Repr

namespace Version

open ClassOrder.Text

/-- The groups of digits that a text starts with, joined by single points; `group` holds in
reverse what the first of them already has. -/
def groupsFrom (group : List Nat) : List Char → List (List Nat)
  | [] => [group.reverse]
  | c :: cs =>
    match digitValue? c with
    | some d => groupsFrom (d :: group) cs
    | none =>
      match c, cs with
      | '.', d :: rest =>
        match digitValue? d with
        | some v => group.reverse :: groupsFrom [v] rest
        | none => [group.reverse]
      | _, _ => [group.reverse]

/-- The first groups of digits in a text, joined by single points. -/
def groups? : List Char → Option (List (List Nat))
  | [] => none
  | c :: cs =>
    match digitValue? c with
    | some d => some (groupsFrom [d] cs)
    | none => groups? cs

/-- The number that a group of digits writes. -/
def number (group : List Nat) : Except TooManyDigits Nat :=
  if group.length ≤ digitLimit then .ok (numeral group) else .error ⟨⟩

/-- The version in a text, `none` if it has no digit. -/
def parse (s : String) : Except TooManyDigits (Option Version) :=
  match groups? s.toList with
  | none => .ok none
  | some groups => (groups.mapM number).map some

/-- Whether one version comes before another, missing numbers counting as zero. -/
def older : Version → Version → Bool
  | _, [] => false
  | [], b :: bs => 0 < b || older [] bs
  | a :: as, b :: bs => a < b || (a == b && older as bs)

end Version

/-- The text that a server gives as its version in its answer to the handshake. -/
def reportedVersion (answer : Json) : Json :=
  (answer.fieldOrNull "serverInfo").fieldOrNull "version"

/-- The warning about a server that is too old. -/
def oldVersionWarning (reported minimum : String) : String :=
  "Tailwind CSS language server " ++ reported ++ " is older than the supported minimum " ++
    minimum ++ "; sorting may not work"

/-- What is known of a server's version. -/
structure VersionCheck where
  /-- The text that the server gave as its version, if it gave one. -/
  reported : Option String
  /-- The warning that it deserves, if it does. -/
  warning : Option String
  deriving DecidableEq, Repr

/-- Compares the version that a server reports with the oldest supported one.  A version that is
missing on either side deserves no warning. -/
def checkVersion (answer : Json) (minimum : String) : Except TooManyDigits VersionCheck :=
  match reportedVersion answer with
  | .string raw => do
    let version ← Version.parse raw
    let required ← Version.parse minimum
    return ⟨some raw,
      match version, required with
      | some v, some r => if v.older r then some (oldVersionWarning raw minimum) else none
      | _, _ => none⟩
  | _ => do
    let _ ← Version.parse minimum
    return ⟨none, none⟩

end ClassOrder
