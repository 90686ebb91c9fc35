import ClassOrder.Proofs.Session.Lasting

/-!
# What a session adds to

A session launches servers one after the other, and what has passed between it and a server stays
passed.  Servers of before are never touched again, the server that there is goes on or joins them,
and a new one comes last.

## Main definitions

* `Session.Grows` — one session as what another one has grown to.
* `Session.passages` — all that has passed between a session and its servers.

## Main results

* `Turn.take_grows`, `run_grows` — **a session only adds to what has been.**
-/

namespace ClassOrder

open ClassOrder.Action (Keeps Triple)

variable {τ α : Type}

namespace Session

variable [Timeline τ] {s t u : Session τ}

/-! ### Growth -/

/-- The second session is what the first has grown to: its servers of before are still the first
ones, and its server has gone on, or has joined them. -/
structure Grows (s t : Session τ) : Prop where
  former : s.former <+: t.former
  attached : ∀ a, s.attached = some a → ∃ v, a.server.Onward v ∧
    (t.former = s.former ∧ t.attached.map (·.server) = some v ∨ s.former ++ [v] <+: t.former)

/-- All that has passed between a session and its servers, one server after the other. -/
def passages (s : Session τ) : List Passage := s.transcripts.flatten

omit [Timeline τ] in
theorem passages_of_attached {a : Attached τ} (ha : s.attached = some a) :
    s.passages = s.former.flatMap (·.transcript) ++ a.server.transcript := by
  rw [passages, transcripts_of_attached ha, List.flatten_append, List.flatten_singleton,
    ← List.flatMap_def]

omit [Timeline τ] in
theorem passages_of_attached_none (ha : s.attached = none) :
    s.passages = s.former.flatMap (·.transcript) := by
  simp [passages, transcripts, servers, ha, List.flatMap_def]

namespace Grows

omit [Timeline τ]

theorem refl (s : Session τ) : Grows s s :=
  ⟨List.prefix_refl _, fun a ha => ⟨a.server, .refl _, .inl ⟨rfl, by rw [ha]; rfl⟩⟩⟩

theorem trans (h : Grows s t) (h' : Grows t u) : Grows s u := by
  refine ⟨h.former.trans h'.former, fun a ha => ?_⟩
  obtain ⟨v, honward, ⟨hformer, hattached⟩ | hjoined⟩ := h.attached a ha
  · -- the server has gone on, so what it does next is told by the second step
    obtain ⟨b, hb, rfl⟩ := Option.map_eq_some_iff.mp hattached
    obtain ⟨w, honward', hw⟩ := h'.attached b hb
    rw [hformer] at hw
    exact ⟨w, honward.trans honward', hw⟩
  · exact ⟨v, honward, .inr (hjoined.trans h'.former)⟩

theorem of_holdings (h : t.holdings = s.holdings) : Grows s t := by
  have hattached : t.attached = s.attached := congrArg Holdings.attached h
  have hformer : t.former = s.former := congrArg Holdings.former h
  refine ⟨hformer ▸ List.prefix_refl _, fun a ha => ⟨a.server, .refl _, .inl ⟨hformer, ?_⟩⟩⟩
  rw [hattached, ha]
  rfl

theorem of_attached {a b : Attached τ} (ha : s.attached = some a) (hb : t.attached = some b)
    (hformer : t.former = s.former) (honward : a.server.Onward b.server) : Grows s t := by
  refine ⟨hformer ▸ List.prefix_refl _, fun a' ha' =>
    ⟨b.server, ?_, .inl ⟨hformer, by rw [hb]; rfl⟩⟩⟩
  rw [ha, Option.some_inj] at ha'
  rwa [← ha']

theorem of_attached_none (ha : s.attached = none) (hformer : t.former = s.former) : Grows s t :=
  ⟨hformer ▸ List.prefix_refl _, fun a ha' => by rw [ha] at ha'; cases ha'⟩

/-- What has passed stays passed. -/
theorem passages (h : Grows s t) : s.passages <+: t.passages := by
  have hall : t.former.flatMap (·.transcript) <+: t.passages := by
    cases hb : t.attached with
    | none => exact passages_of_attached_none hb ▸ List.prefix_refl _
    | some b =>
      rw [passages_of_attached hb]
      exact List.prefix_append _ _
  obtain ⟨joined, hjoined⟩ := h.former
  cases ha : s.attached with
  | none =>
    rw [passages_of_attached_none ha]
    refine List.IsPrefix.trans ?_ hall
    rw [← hjoined, List.flatMap_append]
    exact List.prefix_append _ _
  | some a =>
    rw [passages_of_attached ha]
    obtain ⟨v, honward, ⟨hformer, hattached⟩ | ⟨joined', hjoined'⟩⟩ := h.attached a ha
    · obtain ⟨b, hb, rfl⟩ := Option.map_eq_some_iff.mp hattached
      rw [passages_of_attached hb, hformer]
      exact (List.prefix_append_right_inj _).mpr honward.transcript
    · refine List.IsPrefix.trans ?_ hall
      rw [← hjoined', List.append_assoc, List.flatMap_append, List.prefix_append_right_inj]
      exact honward.transcript.trans (List.prefix_append _ _)

end Grows

omit [Timeline τ] in
theorem onWire_grows {talk : Exchange τ → Wire τ → Except (Fault τ) α × Exchange τ × Wire τ}
    (htalk : ∀ x (w : Wire τ), w.server.Onward (talk x w).2.2.server) (s : Session τ) :
    Grows s ((onWire talk).apply s).2 := by
  cases ha : s.attached with
  | none =>
    rw [onWire_of_attached_none talk ha]
    exact .refl s
  | some a =>
    obtain ⟨-, hattached, hformer⟩ := onWire_apply talk ha
    exact .of_attached ha hattached hformer
      (htalk a.exchange ⟨a.server, s.world.clock, s.world.log⟩)

theorem teardown_grows (graceful : Bool) (s : Session τ) :
    Grows s ((Session.teardown graceful).apply s).2 := by
  cases ha : s.attached with
  | none =>
    rw [teardown_of_attached_none graceful ha]
    exact .refl s
  | some a =>
    have hrun := teardown_triple a s.former graceful s ⟨ha, rfl⟩
    split at hrun
    · next heq =>
      obtain ⟨-, v, honward, -, hformer⟩ := hrun
      rw [heq]
      refine ⟨hformer ▸ List.prefix_append _ _, fun a' ha' =>
        ⟨v, ?_, .inr (hformer ▸ List.prefix_refl _)⟩⟩
      rw [ha, Option.some_inj] at ha'
      rwa [← ha']
    · next heq =>
      obtain ⟨b, hb, honward, -⟩ := hrun.1.attached
      rw [heq]
      exact .of_attached ha hb hrun.1.former_eq honward

omit [Timeline τ] in
theorem onServer_grows {change : τ → Server τ → Server τ}
    (hchange : ∀ now (v : Server τ), v.Onward (change now v)) (s : Session τ) :
    Grows s (s.onServer change) := by
  cases ha : s.attached with
  | none => exact .of_attached_none ha rfl
  | some a =>
    have hb : (s.onServer change).attached =
        some { a with server := change s.world.clock a.server } := by
      simp [Session.onServer, ha]
    exact .of_attached ha hb rfl (hchange _ _)

/-- What a session has grown from lasts. -/
theorem lasting_grows (s : Session τ) : Lasting (Grows s) where
  quiet _ _ hholdings h := h.trans (.of_holdings hholdings)
  request method params := Keeps.of_apply fun t h =>
    h.trans (onWire_grows (request_onward method params) t)
  notify _ _ := Keeps.of_apply fun t h => h.trans <|
    onWire_grows (fun _ w => (Wire.send_onward w.server _).apply (Server.Onward.refl w.server)) t
  drain timeout := Keeps.of_apply fun t h => h.trans <| onWire_grows
    (fun x w => x.drain_keeps (Wire.serves_onward w.server) timeout (Server.Onward.refl w.server)) t
  teardown graceful := Keeps.of_apply fun t h => h.trans (teardown_grows graceful t)
  attach _ _ _ hnone _ h := h.trans (.of_attached_none hnone rfl)
  act t deeds h := h.trans (onServer_grows (fun now v => Server.onward_performAll now deeds v) t)
  breakInput t fault h := h.trans (onServer_grows (fun _ v => onward_breakInput fault none v) t)

end Session

variable [Timeline τ] {s : Session τ}

/-- **A turn only adds to what has been.** -/
theorem Turn.take_grows (turn : Turn τ) (s : Session τ) : s.Grows (turn.take s).2 :=
  (Session.lasting_grows s).take turn (.refl s)

/-- **A run only adds to what has been.** -/
theorem Session.run_grows (turns : List (Turn τ)) (s : Session τ) : s.Grows (s.run turns) :=
  (Session.lasting_grows s).run turns (.refl s)

end ClassOrder
