import ClassOrder.Proofs.Session.Transcript

/-!
# Open requests

A request is open from when it is sent until its response is read.  While a request waits, replies
and other messages pass, and none of them closes it or opens another one.

## Main definitions

* `openRequests` — the requests of this side that are open after what has passed.
* `OneAtATime` — every request was sent when no other one was open.
* `Idle`, `WaitsFor` — the same, with no request open now or with just one.

## Main results

* `Idle.request`, `WaitsFor.read`, `WaitsFor.answered` — how a request is opened and closed.
-/

namespace ClassOrder

open ClassOrder.Action (Keeps Triple)

variable {τ : Type}

/-- The open requests after one more passage. -/
def openAfter (ids : List MessageId) : Passage → List MessageId
  | .sent (.request id _ _) => ids ++ [id]
  | .read (.response (some id) _ _) => ids.filter (· ≠ id)
  | _ => ids

/-- The requests of this side that are open after what has passed. -/
def openRequests (t : List Passage) : List MessageId := t.foldl openAfter []

/-- Every request was sent when no other one was open. -/
def OneAtATime (t : List Passage) : Prop :=
  ∀ before id method params after,
    t = before ++ .sent (.request id method params) :: after → openRequests before = []

theorem openRequests_append (t : List Passage) (p : Passage) :
    openRequests (t ++ [p]) = openAfter (openRequests t) p := by
  simp [openRequests]

/-- Whether a passage is a request of this side. -/
def Passage.isRequest : Passage → Bool
  | sent (.request ..) => true
  | _ => false

/-- What has passed stays in order with one more passage, unless that is a request sent while
another one is open. -/
theorem OneAtATime.append {t : List Passage} (h : OneAtATime t) {p : Passage}
    (hp : p.isRequest = true → openRequests t = []) : OneAtATime (t ++ [p]) := by
  intro before id method params after heq
  -- a request stands last or before what stands last
  rcases List.eq_nil_or_concat after with rfl | ⟨after', q, rfl⟩
  · obtain ⟨rfl, hlast⟩ := List.append_inj' heq rfl
    rw [List.singleton_inj] at hlast
    exact hp (by rw [hlast]; rfl)
  · have hsplit : t ++ [p] = (before ++ .sent (.request id method params) :: after') ++ [q] := by
      rw [heq]
      simp
    obtain ⟨ht, -⟩ := List.append_inj' hsplit rfl
    exact h before id method params after' ht

theorem oneAtATime_nil : OneAtATime [] := by
  intro before id method params after heq
  simp at heq

/-- There was one request at a time, and none is open. -/
structure Idle (t : List Passage) : Prop where
  inOrder : OneAtATime t
  none_open : openRequests t = []

/-- There was one request at a time, and just this one is open. -/
structure WaitsFor (id : MessageId) (t : List Passage) : Prop where
  inOrder : OneAtATime t
  one_open : openRequests t = [id]

theorem idle_nil : Idle [] := ⟨oneAtATime_nil, rfl⟩

theorem Idle.request {t : List Passage} (h : Idle t) (id : MessageId) (method : String)
    (params : Json) : WaitsFor id (t ++ [.sent (.request id method params)]) where
  inOrder := h.inOrder.append fun _ => h.none_open
  one_open := by rw [openRequests_append, h.none_open]; rfl

theorem Idle.sent {t : List Passage} (h : Idle t) {m : Message}
    (hm : (Passage.sent m).isRequest = false) : Idle (t ++ [.sent m]) where
  inOrder := h.inOrder.append fun hreq => by rw [hm] at hreq; cases hreq
  none_open := by
    rw [openRequests_append, h.none_open]
    cases m with
    | request _ _ _ => cases hm
    | notification _ _ => rfl
    | response _ _ _ => rfl

theorem Idle.read {t : List Passage} (h : Idle t) (m : Message) : Idle (t ++ [.read m]) where
  inOrder := h.inOrder.append fun hreq => by cases hreq
  none_open := by
    rw [openRequests_append, h.none_open]
    rcases m with _ | _ | ⟨_ | id, _, _⟩ <;> rfl

theorem WaitsFor.reply {id : MessageId} {t : List Passage} (h : WaitsFor id t) (rid : MessageId)
    (result : Json) : WaitsFor id (t ++ [reply rid result]) where
  inOrder := h.inOrder.append fun hreq => by cases hreq
  one_open := by rw [openRequests_append, h.one_open]; rfl

/-- What is read while a request waits leaves it open, unless it is the response. -/
theorem WaitsFor.read {id : MessageId} {t : List Passage} (h : WaitsFor id t) {m : Message}
    (hm : m.responds id = false) : WaitsFor id (t ++ [.read m]) where
  inOrder := h.inOrder.append fun hreq => by cases hreq
  one_open := by
    rw [openRequests_append, h.one_open]
    rcases m with _ | _ | ⟨_ | rid, _, _⟩
    · rfl
    · rfl
    · rfl
    · have hne : id ≠ rid := by
        rintro rfl
        simp [Message.responds] at hm
      simp [openAfter, hne]

theorem WaitsFor.answered {id : MessageId} {t : List Passage} (h : WaitsFor id t) {m : Message}
    (hm : m.responds id = true) : Idle (t ++ [.read m]) where
  inOrder := h.inOrder.append fun hreq => by cases hreq
  none_open := by
    obtain ⟨result, error, rfl⟩ := Message.eq_of_responds hm
    rw [openRequests_append, h.one_open]
    simp [openAfter]

end ClassOrder
