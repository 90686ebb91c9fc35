import ClassOrder.Server.Reply
import Mathlib.Data.List.Forall2

/-!
# Settings, item for item

A server asks for settings with a list of items, each of which may name a section, and reads the
reply by position: the first entry is for the first item, and so on.  The entries are the right
ones for every list of items but the empty one, which is answered with one entry all the same.

## Main definitions

* `Json.NamesSection` — an item that asks for a section.
* `Preferences.Suits` — an entry that suits an item.

## Main results

* `settingsReply_eq` — what a list of items is answered with.
* `configuration_reply_iff` — **the reply suits the items one by one exactly if there are any.**
-/

namespace ClassOrder

variable {τ : Type}

/-- An item that asks for a section: an object with the name of the section. -/
def Json.NamesSection (name : String) (item : Json) : Prop :=
  ∃ fields, item = .object fields ∧ Assoc.get? "section" fields = some (.string name)

namespace Preferences

/-- An entry that suits an item: the settings of the section with settings of its own if the item
asks for that section, and else those of the editor. -/
structure Suits (p : Preferences) (item entry : Json) : Prop where
  of_names : item.NamesSection sectionName → entry = p.tailwind
  of_not_names : ¬ item.NamesSection sectionName → entry = p.editor

/-- Settings that are given are the settings there are, unless they are empty. -/
theorem ofGiven_object {tailwind editor : List (String × Json)} (htailwind : tailwind ≠ [])
    (heditor : editor ≠ []) :
    ofGiven (.object tailwind) (.object editor) = ⟨.object tailwind, .object editor⟩ := by
  simp [ofGiven, Json.isFilled, htailwind, heditor]

/-! ### One item -/

theorem settingsForItem_of_names {p : Preferences} {item : Json}
    (h : item.NamesSection sectionName) : p.settingsForItem item = p.tailwind := by
  obtain ⟨fields, rfl, hname⟩ := h
  simp [settingsForItem, Json.fieldOrNull, Json.field?, hname, settingsFor]

/-- What is no object, has no section or has something else than a text for one asks for no
section that has settings of its own. -/
theorem settingsForItem_of_not_names {p : Preferences} {item : Json}
    (h : ¬ item.NamesSection sectionName) : p.settingsForItem item = p.editor := by
  rw [settingsForItem, settingsFor.eq_def]
  split
  · next name hfield =>
    refine if_neg fun hname => h ?_
    cases item with
    | object fields =>
      refine ⟨fields, rfl, ?_⟩
      simp only [Json.fieldOrNull, Json.field?] at hfield
      cases hget : Assoc.get? "section" fields with
      | none => simp [hget] at hfield
      | some section_ =>
        rw [hget, Option.getD_some] at hfield
        rw [hfield, hname]
    | _ => cases hfield
  · rfl

/-- One entry suits an item. -/
theorem suits_iff (p : Preferences) (item entry : Json) :
    p.Suits item entry ↔ entry = p.settingsForItem item := by
  by_cases h : item.NamesSection sectionName
  · rw [settingsForItem_of_names h]
    exact ⟨fun hsuits => hsuits.of_names h, fun heq => ⟨fun _ => heq, fun hnot => absurd h hnot⟩⟩
  · rw [settingsForItem_of_not_names h]
    exact ⟨fun hsuits => hsuits.of_not_names h, fun heq => ⟨fun hname => absurd hname h,
      fun _ => heq⟩⟩

/-! ### Lists of items -/

/-- One list of entries suits a list of items, entry by entry. -/
theorem forall₂_suits_iff (p : Preferences) (items entries : List Json) :
    List.Forall₂ p.Suits items entries ↔ entries = items.map p.settingsForItem := by
  induction items generalizing entries with
  | nil => simp
  | cons item items ih =>
    cases entries with
    | nil => simp
    | cons entry entries => simp [suits_iff, ih]

/-- **What a list of items is answered with**: the settings of each, but those of the editor if
there is no item. -/
theorem settingsReply_eq (p : Preferences) {params : Json} {items : List Json}
    (h : params.fieldOrNull "items" = .array items) :
    settingsReply (τ := τ) p params =
      .ok (.array (if items = [] then [p.editor] else items.map p.settingsForItem)) := by
  rw [settingsReply, h]
  cases items with
  | nil => rfl
  | cons item items => rfl

/-- **The reply to a request for settings suits its items one by one exactly if there are any.**
Whatever the items are and whatever settings other than empty ones are given, the reply has the
identifier of the request, no error, and a list of entries; it has one entry for each item, in
order, that suits the item, unless the list of items is empty: then it has one entry, the settings
of the editor. -/
theorem configuration_reply_iff {tailwind editor : List (String × Json)} (htailwind : tailwind ≠ [])
    (heditor : editor ≠ []) (id : MessageId) {params : Json} {items : List Json}
    (hitems : params.field? "items" = some (.array items)) :
    ∃ entries, replyTo (τ := τ) (ofGiven (.object tailwind) (.object editor))
        (.request id Method.configuration params) =
          .ok (some (.response (some id) (.array entries) none)) ∧
      (List.Forall₂ (Suits ⟨.object tailwind, .object editor⟩) items entries ↔ items ≠ []) ∧
      (items = [] → entries = [.object editor]) := by
  have hfield : params.fieldOrNull "items" = .array items := by
    rw [Json.fieldOrNull, hitems, Option.getD_some]
  rw [ofGiven_object htailwind heditor]
  refine ⟨_, by rw [replyTo, if_pos rfl, settingsReply_eq _ hfield], ?_,
    fun hempty => if_pos hempty⟩
  rw [forall₂_suits_iff]
  by_cases hempty : items = [] <;> simp [hempty]

/-- Items of every kind: one that is no object, one that asks for no section, one with a number for
a section, one that asks for the section with settings of its own, and one for another section. -/
def mixedItems : List Json :=
  [.null, .object [], .object [("section", .int 1)],
    .object [("scopeUri", .null), ("section", .string "tailwindCSS")],
    .object [("section", .string "editor")]]

theorem configuration_reply_iff_mixedItems :
    ∃ entries, replyTo (τ := ℕ)
        (ofGiven (.object [("validate", .bool false)]) (.object [("tabSize", .int 2)]))
        (.request (.text "srv-1") Method.configuration (.object [("items", .array mixedItems)])) =
          .ok (some (.response (some (.text "srv-1")) (.array entries) none)) ∧
      entries = [.object [("tabSize", .int 2)], .object [("tabSize", .int 2)],
        .object [("tabSize", .int 2)], .object [("validate", .bool false)],
        .object [("tabSize", .int 2)]] := by
  have htailwind : [("validate", Json.bool false)] ≠ [] := by decide
  have heditor : [("tabSize", Json.int 2)] ≠ [] := by decide
  have hitems : (Json.object [("items", .array mixedItems)]).field? "items" =
      some (.array mixedItems) := rfl
  obtain ⟨entries, hreply, hsuits, -⟩ :=
    configuration_reply_iff (τ := ℕ) htailwind heditor (.text "srv-1") hitems
  exact ⟨entries, hreply, (forall₂_suits_iff _ _ _).mp (hsuits.mpr (by simp [mixedItems]))⟩

end Preferences

end ClassOrder
