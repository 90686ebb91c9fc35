import ClassOrder.Proofs.Session.Start
import ClassOrder.Session.Run

/-!
# Calls that start a server

Some calls start a server before anything else, and all that they do afterwards goes on with what
the start left.

## Main definitions

* `Call.startsFrom`, `Turn.startsFrom` — the session in which a call or a turn starts a server, if
  it does.
* `Session.order`, `Session.askProject` — what the two calls do once there is a server.

## Main results

* `Turn.take_of_start`, `Call.perform_of_none` — what is known after a turn with or without a start.
* `Turn.take_later_start` — a turn goes on with what its start left.
* `Turn.take_later` — a turn without a start goes on with what there is.
-/

namespace ClassOrder

open ClassOrder.Action (Keeps Triple)

variable {τ α β : Type} [Timeline τ]

/-- The session in which a call starts a server, if it does. -/
def Call.startsFrom (s : Session τ) : Call → Option (Session τ)
  | start | project => some s
  | sort classes | sortOnce classes =>
    match (Session.kept? classes).apply s with
    | (.ok none, t) => some t
    | _ => none
  | stop | abandon | cleanup | prepare => none

/-- The session in which a turn starts a server, if it does. -/
def Turn.startsFrom (s : Session τ) : Turn τ → Option (Session τ)
  | call c => c.startsFrom s
  | pass _ | edit _ | act _ | breakInput _ => none

namespace Session

variable {s t u : Session τ}

/-- What asking for an order does once there is a server. -/
def order (classes : String) : Action (Session τ) τ String := do
  changeDocument classes
  let result ← call Method.sortSelection (sortParams (← get).documentUri classes)
  match ← Action.ofExcept (sortedClasses result) with
  | some sorted =>
    keep classes sorted
    return sorted
  | none =>
    log ("Server returned no sorted classes for: " ++ classes)
    return classes

/-- What asking for the project does once there is a server. -/
def askProject : Action (Session τ) τ Json := do
  let uri ← uriOf (← present (← get).activeConfig)
  let result ← call Method.getProject (.object [("uri", .string uri)])
  match heldError? result with
  | some error => throw (.reported "finding project" error)
  | none =>
    if result.isNull then modify (note ⟨.info, "No project found"⟩)
    return result

theorem askForOrder_eq (classes : String) :
    (askForOrder classes : Action (Session τ) τ String) = (do ensureStarted; order classes) := rfl

theorem getProject_eq : (getProject : Action (Session τ) τ Json) = (do ensureStarted; askProject) :=
  rfl

/-- A class list whose order is not kept is asked for. -/
theorem apply_sortClasses (classes : String) (s : Session τ) :
    (sortClasses classes).apply s =
      match (kept? classes).apply s with
      | (.ok none, u) => (askForOrder classes).apply u
      | (.ok (some result), u) => (.ok result, u)
      | (.error fault, u) => (.error fault, u) := by
  rw [sortClasses, Action.apply_bind]
  rcases (kept? classes).apply s with ⟨_ | _ | _, _⟩ <;> rfl

end Session

variable {s t u : Session τ} {I : Session τ → Prop}

theorem kept?_of_match {classes : String}
    (h : (match (Session.kept? classes).apply s with
      | (.ok none, t) => some t
      | _ => none) = some u) : (Session.kept? classes).apply s = (.ok none, u) := by
  split at h
  · next heq =>
    cases h
    exact heq
  · cases h

/-- A server is started from the session that there is, or from what looking up a kept result has
left of it. -/
theorem Call.keeps_startsFrom (hkept : ∀ classes, (Session.kept? classes).Keeps I) {c : Call}
    (h : c.startsFrom s = some u) (hs : I s) : I u := by
  have hlooked {classes : String} (hrun : (Session.kept? classes).apply s = (.ok none, u)) :
      I u := by
    have hu := (hkept classes).apply hs
    rwa [hrun] at hu
  cases c with
  | start => cases h; exact hs
  | project => cases h; exact hs
  | sort classes => exact hlooked (kept?_of_match h)
  | sortOnce classes => exact hlooked (kept?_of_match h)
  | stop => cases h
  | abandon => cases h
  | cleanup => cases h
  | prepare => cases h

theorem Turn.keeps_startsFrom (hkept : ∀ classes, (Session.kept? classes).Keeps I)
    {turn : Turn τ} (h : turn.startsFrom s = some u) (hs : I s) : I u := by
  cases turn with
  | call c => exact Call.keeps_startsFrom hkept h hs
  | pass time => cases h
  | edit change => cases h
  | act deeds => cases h
  | breakInput fault => cases h

/-- What a start has made is known after the call if what the call does then keeps it. -/
theorem Call.perform_of_start (horder : ∀ classes, (Session.order classes).Keeps I)
    (hproject : Session.askProject.Keeps I) (hstop : Session.stop.Keeps I) {c : Call}
    (h : c.startsFrom s = some u) (hstart : I (Session.ensureStarted.apply u).2) :
    I (c.perform.apply s).2 := by
  have hsort {classes : String} (hk : (Session.kept? classes).apply s = (.ok none, u)) :
      I ((Session.sortClasses classes).apply s).2 := by
    rw [Session.apply_sortClasses, hk, Session.askForOrder_eq]
    exact Keeps.apply_bind (fun _ => horder classes) hstart
  cases c with
  | start =>
    cases h
    exact Keeps.apply_bind (fun _ => Keeps.pure _) hstart
  | project =>
    cases h
    exact Keeps.apply_bind (fun _ => hproject) hstart
  | sort classes => exact Keeps.apply_bind (fun _ => Keeps.pure _) (hsort (kept?_of_match h))
  | sortOnce classes =>
    exact Keeps.apply_bind (fun _ => Keeps.pure _)
      (Keeps.apply_andThen hstop (hsort (kept?_of_match h)))
  | stop => cases h
  | abandon => cases h
  | cleanup => cases h
  | prepare => cases h

/-- What a start has made is known after the turn if what the turn does then keeps it. -/
theorem Turn.take_of_start (horder : ∀ classes, (Session.order classes).Keeps I)
    (hproject : Session.askProject.Keeps I) (hstop : Session.stop.Keeps I) {turn : Turn τ}
    (h : turn.startsFrom s = some u) (hstart : I (Session.ensureStarted.apply u).2) :
    I (turn.take s).2 := by
  cases turn with
  | call c => exact Call.perform_of_start horder hproject hstop h hstart
  | pass time => cases h
  | edit change => cases h
  | act deeds => cases h
  | breakInput fault => cases h

/-- What is known before a call without a start is known after it if the few things that such calls
do keep it. -/
theorem Call.perform_of_none (hkept : ∀ classes, (Session.kept? classes).Keeps I)
    (hstop : Session.stop.Keeps I) (habandon : Session.abandon.Keeps I) {c : Call}
    (hcleanup : c = .cleanup → Session.cleanup.Keeps I)
    (hprepare : c = .prepare → Session.prepareWorkspace.Keeps I)
    (h : c.startsFrom s = none) (hs : I s) : I (c.perform.apply s).2 := by
  have hgive {α : Type} {a : Action (Session τ) τ α} (ha : I (a.apply s).2) (f : α → Json) :
      I ((do return f (← a) : Action (Session τ) τ Json).apply s).2 :=
    Keeps.apply_bind (fun _ => Keeps.pure _) ha
  -- without a start, a class list is answered by what is kept, or looking for that fails
  have hsort {classes : String} (hk : (match (Session.kept? classes).apply s with
      | (.ok none, t) => some t
      | _ => none) = none) : I ((Session.sortClasses classes).apply s).2 := by
    have hlooked := (hkept classes).apply hs
    rw [Session.apply_sortClasses]
    rcases hrun : (Session.kept? classes).apply s with ⟨fault | _ | result, u⟩
    · rwa [hrun] at hlooked
    · rw [hrun] at hk
      cases hk
    · rwa [hrun] at hlooked
  cases c with
  | start => cases h
  | project => cases h
  | sort classes => exact hgive (hsort h) .string
  | sortOnce classes => exact hgive (Keeps.apply_andThen hstop (hsort h)) .string
  | stop => exact hgive (hstop.apply hs) fun _ => .null
  | abandon => exact hgive (habandon.apply hs) fun _ => .null
  | cleanup => exact hgive ((hcleanup rfl).apply hs) fun _ => .null
  | prepare => exact hgive ((hprepare rfl).apply hs) fun _ => .null

/-! ### What goes on -/

theorem Call.holdings_startsFrom {c : Call} (h : c.startsFrom s = some u) :
    u.holdings = s.holdings :=
  Call.keeps_startsFrom (I := (·.holdings = s.holdings))
    (fun classes => Session.quiet_kept? classes _) h rfl

theorem Turn.holdings_startsFrom {turn : Turn τ} (h : turn.startsFrom s = some u) :
    u.holdings = s.holdings :=
  Turn.keeps_startsFrom (I := (·.holdings = s.holdings))
    (fun classes => Session.quiet_kept? classes _) h rfl

/-- The session that a turn starts from goes on from the one that the turn is taken in. -/
theorem Turn.later_startsFrom {turn : Turn τ} (h : turn.startsFrom s = some u) :
    Session.Later s u := (Session.Later.refl s).of_holdings (Turn.holdings_startsFrom h)

namespace Session

theorem call_later (method : String) (params : Json) (s : Session τ) :
    (call method params : Action (Session τ) τ Json).Keeps (Later s) :=
  orAbandon_later (request_later method params s)

theorem changeDocument_later (classes : String) (s : Session τ) :
    (changeDocument classes : Action (Session τ) τ Unit).Keeps (Later s) :=
  Keeps.bind (Keeps.modify fun _ ht => ⟨ht.attached, ht.former⟩) fun _ =>
    Keeps.get_bind fun _ => orAbandon_later (notify_later _ _ s)

theorem order_later (classes : String) (s : Session τ) :
    (order classes : Action (Session τ) τ String).Keeps (Later s) := by
  refine Keeps.bind (changeDocument_later classes s) fun _ => Keeps.get_bind fun _ =>
    Keeps.bind (call_later _ _ s) fun result => Keeps.bind (Keeps.ofExcept _) fun list => ?_
  split
  · exact Keeps.bind ((quiet_keep _ _).later s) fun _ => Keeps.pure _
  · exact Keeps.bind ((quiet_log _).later s) fun _ => Keeps.pure _

theorem askProject_later (s : Session τ) :
    (askProject : Action (Session τ) τ Json).Keeps (Later s) := by
  refine Keeps.get_bind fun _ => Keeps.bind ((quiet_present _).later s) fun _ =>
    Keeps.bind ((quiet_uriOf _).later s) fun _ => Keeps.bind (call_later _ _ s) fun result => ?_
  split
  · exact Keeps.throw _
  · exact Keeps.ite (Keeps.bind (Keeps.modify fun _ ht => ⟨ht.attached, ht.former⟩)
      fun _ => Keeps.pure _) (Keeps.pure _)

end Session

omit [Timeline τ] in
theorem onward_breakInput (writing flushing : Option (Fault τ)) (v : Server τ) :
    v.Onward (v.breakInput writing flushing) := ⟨List.prefix_refl _, id, id⟩

/-- A turn goes on with what its start left. -/
theorem Turn.take_later_start {turn : Turn τ} (h : turn.startsFrom s = some u) :
    Session.Later (Session.ensureStarted.apply u).2 (turn.take s).2 :=
  Turn.take_of_start (fun classes => Session.order_later classes _) (Session.askProject_later _)
    (Session.stop_later _) h (.refl _)

/-- A turn without a start goes on with what there is. -/
theorem Turn.take_later {turn : Turn τ} (h : turn.startsFrom s = none) :
    Session.Later s (turn.take s).2 := by
  cases turn with
  | call c =>
    exact Call.perform_of_none (fun classes => (Session.quiet_kept? classes).later s)
      (Session.stop_later s) (Session.teardown_later false s) (fun _ => Session.cleanup_later s)
      (fun _ => Session.quiet_prepareWorkspace.later s) h (.refl s)
  | pass time => exact ⟨(Session.Later.refl s).attached, id⟩
  | edit change => exact ⟨(Session.Later.refl s).attached, id⟩
  | act deeds =>
    exact (Session.Later.refl s).onServer fun now v => Server.onward_performAll now deeds v
  | breakInput fault =>
    exact (Session.Later.refl s).onServer fun _ v => onward_breakInput fault none v

end ClassOrder
