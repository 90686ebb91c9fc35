import ClassOrder.Proofs.Action.Triple
import ClassOrder.Session.Teardown

/-!
# The way down

Taking a server down is the same walk every time.  Its input is closed, it is waited for, told to
end and ended by force, its other streams are closed, and it is let go of.  On the way the session
notes things, records what happens and changes the server, and there are five changes besides
closing the input.  What bears these is kept by the walk, whichever turns it takes; only its first
step and its last one are left to be looked at.

## Main definitions

* `Server.Undergoes` — a relation between a server and what each of the five changes makes of it.
* `Session.Bears` — a property that is kept by notes, by events and by changes of the server in a
  given relation.

## Main results

* `Bears.awaitLeave`, `Bears.terminate` — waiting for a server and ending it fail with nothing and
  keep what bears them.
* `Bears.teardown` — **what comes of a teardown is told by closing the input and letting go.**
-/

namespace ClassOrder

open ClassOrder.Action (Keeps Triple)

variable {τ : Type} [Timeline τ] {R : Server τ → Server τ → Prop}

/-- What is done to a server on its way down leads to a server in the relation `R`; closing its
input is not among it. -/
structure Server.Undergoes (R : Server τ → Server τ → Prop) : Prop where
  elapse : ∀ now time v, R v (v.elapse now time)
  nudge : ∀ now v, R v (v.nudge now .terminated)
  kill : ∀ now v, R v (v.kill now)
  closeOutput : ∀ v, R v v.closeOutput.2
  closeComplaints : ∀ v, R v v.closeComplaints.2

/-- Any change at all is in the relation that always holds. -/
theorem Server.undergoes_any : Undergoes (τ := τ) fun _ _ => True :=
  ⟨fun _ _ _ => trivial, fun _ _ => trivial, fun _ _ => trivial, fun _ => trivial, fun _ => trivial⟩

namespace Session

omit [Timeline τ] in
/-- The property is kept by notes, by events, and by any change of the server in the relation
`R`. -/
structure Bears (R : Server τ → Server τ → Prop) (I : Session τ → Prop) : Prop where
  note : ∀ {s : Session τ} (r : Record), I s → I (s.note r)
  happen : ∀ {s : Session τ} (e : ServerEvent τ), I s → I (s.happen e)
  onServer : ∀ {s : Session τ} {change : τ → Server τ → Server τ},
    (∀ now v, R v (change now v)) → I s → I (s.onServer change)

variable {P P' Q I : Session τ → Prop} {E : Fault τ → Session τ → Prop}

namespace Bears

omit [Timeline τ] in
protected theorem closeStream (h : Bears R I)
    {close : τ → Server τ → Except (Fault τ) Unit × Server τ} {e : ServerEvent τ}
    (hclose : ∀ now v, R v (close now v).2) :
    (closeStream close e : Action (Session τ) τ Unit).Keeps I := by
  refine Keeps.of_apply fun s hs => ?_
  cases ha : s.attached with
  | none => simpa [Session.closeStream, ha] using hs
  | some a =>
    have hclosed := h.happen e (h.onServer hclose hs)
    simp only [Session.onServer, ha, Option.map_some] at hclosed
    simp only [Session.closeStream, Action.apply_ofFun, ha]
    split
    · exact hclosed
    · split
      · exact h.note _ hclosed
      · exact hclosed

omit [Timeline τ] in
protected theorem closeOutputs (h : Bears R I) (houtput : ∀ v, R v v.closeOutput.2)
    (hcomplaints : ∀ v, R v v.closeComplaints.2) :
    (closeOutputs : Action (Session τ) τ Unit).Keeps I :=
  Keeps.bind (h.closeStream fun _ => houtput) fun _ => h.closeStream fun _ => hcomplaints

/-- Waiting for a server fails with nothing. -/
protected theorem awaitEnd (h : Bears R I) (hR : Server.Undergoes R) (timeout : τ) :
    Triple I (awaitEnd timeout : Action (Session τ) τ Bool) (fun _ => I) (fun _ _ => False) := by
  refine Triple.bind (S := fun _ => I) (Triple.modify fun s hs => ?_) fun _ =>
    Triple.get_bind fun s hs => Triple.pure fun t ht => ht ▸ hs
  exact h.happen _ (h.onServer (fun now v => hR.elapse now timeout v) hs)

protected theorem awaitLeave (h : Bears R I) (hR : Server.Undergoes R) :
    Triple I (awaitLeave : Action (Session τ) τ Unit) (fun _ => I) (fun _ _ => False) := by
  refine Triple.get_bind fun s hs => Triple.bind ((h.awaitEnd hR _).pre fun t ht => ht ▸ hs)
    fun _ => Triple.ite (fun _ => ?_) fun _ => Triple.pure fun t ht => ht
  exact Triple.modify fun t ht => h.note _ ht

/-- Ending a server fails with nothing either. -/
protected theorem terminate (h : Bears R I) (hR : Server.Undergoes R) :
    Triple I (terminate : Action (Session τ) τ Unit) (fun _ => I) (fun _ _ => False) := by
  refine Triple.bind (S := fun _ => I) (Triple.modify fun s hs => ?_) fun _ =>
    Triple.get_bind fun s hs => Triple.bind ((h.awaitEnd hR _).pre fun t ht => ht ▸ hs)
      fun _ => Triple.ite (fun _ => ?_) fun _ => Triple.pure fun t ht => ht
  · exact h.happen _ (h.onServer hR.nudge hs)
  · refine Triple.bind (S := fun _ => I) (Triple.modify fun t ht => h.note _ ht) fun _ =>
      Triple.modify fun t ht => ?_
    exact h.happen _ (h.happen _ (h.onServer hR.kill ht))

/-- What comes of the walk from when the input is closed is told by letting go of the server. -/
theorem bringDown (h : Bears R I) (hR : Server.Undergoes R)
    (hgo : Triple I (do closeOutputs; detach : Action (Session τ) τ Unit) (fun _ => Q) E) :
    Triple I
      (do
        if (← get).serverAlive then terminate
        closeOutputs
        detach : Action (Session τ) τ Unit) (fun _ => Q) E := by
  refine Triple.get_bind fun s hs => Triple.ite (fun _ => ?_) fun _ => ?_
  · refine Triple.bind (((h.terminate hR).pre ?_).post (fun _ _ ht => ht) fun _ _ hno => hno.elim)
      fun _ => hgo
    exact fun t ht => ht ▸ hs
  · rintro t rfl
    exact hgo t hs

/-- **What comes of a teardown is told by closing the input and letting go.**  The number of the
last request is saved before anything else, and without a server nothing is done. -/
protected theorem teardown (h : Bears R I) (hR : Server.Undergoes R)
    (hsave : ∀ s, P s → s.attached.isSome = true → P' { s with lastId := s.lastRequest })
    (hinput : Triple P' (closeInput : Action (Session τ) τ Unit) (fun _ => I) E)
    (hgo : Triple I (do closeOutputs; detach : Action (Session τ) τ Unit) (fun _ => Q) E)
    (hnone : ∀ s, P s → s.attached = none → Q s) (graceful : Bool) :
    Triple P (teardown graceful : Action (Session τ) τ Unit) (fun _ => Q) E := by
  refine Triple.get_bind fun s hs => Triple.ite (fun hsome => ?_) fun hsome => ?_
  · refine Triple.bind (S := fun _ => P') (Triple.modify fun t ht => ht ▸ hsave s hs hsome)
      fun _ => Triple.bind hinput fun _ => Triple.ite (fun _ => ?_) fun _ => h.bringDown hR hgo
    exact Triple.bind ((h.awaitLeave hR).post (fun _ _ ht => ht) fun _ _ hno => hno.elim)
      fun _ => h.bringDown hR hgo
  · exact Triple.pure fun t ht => ht ▸ hnone s hs (by simpa using hsome)

/-- What a whole teardown bears is kept by it. -/
theorem keeps_teardown (h : Bears R I) (hR : Server.Undergoes R)
    (hsave : ∀ s, I s → I { s with lastId := s.lastRequest })
    (hinput : ∀ now v, R v (v.closeInput now).2)
    (hdetach : ∀ s, I s → I { s with attached := none, former := s.servers }) (graceful : Bool) :
    (teardown graceful : Action (Session τ) τ Unit).Keeps I :=
  h.teardown hR (fun s hs _ => hsave s hs) (h.closeStream hinput)
    (Keeps.bind (h.closeOutputs hR.closeOutput hR.closeComplaints) fun _ => Keeps.modify hdetach)
    (fun _ hs _ => hs) graceful

end Bears

end Session

end ClassOrder
