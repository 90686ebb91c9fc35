import ClassOrder.Proofs.Exchange.Enough

/-!
# Waiting, round by round

Waiting for a response passes over messages, each of which is read with something left of the time
and attended to, and then one more round ends it.  In surroundings where every message read leaves
less to read, that is all there is to say about it: what waiting comes to is what such a course of
rounds leads to, and no other course is possible.

## Main definitions

* `Bounds.remaining` — what is left of the time.
* `Message.respondsTo` — the response that is waited for.
* `Surroundings.Reads` — one read.
* `Surroundings.Passes`, `Surroundings.Ends` — the messages passed over, and the last round.

## Main results

* `await_eq_iff` — **waiting comes to what passing over messages and ending leads to.**
* `request_of_sent` — a request that was sent waits.
-/

namespace ClassOrder

variable {σ τ : Type}

/-- Whether a message is the response to the request `id`. -/
def Message.respondsTo (id : MessageId) : Message → Bool
  | .response rid _ _ => rid = some id
  | .request .. | .notification .. => false

theorem Message.respondsTo_eq_true {id : MessageId} {m : Message} (h : m.respondsTo id = true) :
    ∃ result error, m = .response (some id) result error := by
  cases m with
  | response rid result error =>
    obtain rfl : rid = some id := by simpa [respondsTo] using h
    exact ⟨result, error, rfl⟩
  | request rid method params => cases h
  | notification method params => cases h

/-- What is left of the time at a given moment. -/
def Bounds.remaining [Timeline τ] (b : Bounds τ) (now : τ) : τ := b.timeout - (now - b.start)

namespace Surroundings

variable (e : Surroundings σ τ)

/-- What is done about a message that is not waited for: a response is put aside, and the server
gets its reply. -/
def attend : Message → Action σ τ Unit
  | .response rid _ _ => modify (e.note (discardNote rid))
  | m => e.answer m

/-- Sends a request, which is logged first. -/
def ask (id : Int) (method : String) (params : Json) : Action σ τ Unit := do
  modify (e.note ⟨.debug, "Sending request " ++ toString id ++ ": " ++ method⟩)
  e.send (.request (.number id) method params)

variable [Timeline τ] (b : Bounds τ) (id : MessageId)

/-- One read, with `left` left of the time when it begins: its outcome and what it leads to. -/
structure Reads (s : σ) (left : τ) (item : Item τ) (t : σ) : Prop where
  left_eq : left = b.remaining (e.look s).1
  inTime : ¬ left ≤ 0
  receive_eq : (e.receive (earlier b.readTimeout left)).apply (e.look s).2 = (item, t)

/-- Messages are read and passed over, one after the other: none of them is the response, and each
is attended to before the next one is read. -/
inductive Passes : σ → List Message → σ → Prop where
  | nil (s : σ) : Passes s [] s
  | cons {s t u v : σ} {left : τ} {m : Message} {ms : List Message}
    (hread : e.Reads b s left (.ok m) t) (hother : m.respondsTo id = false)
    (hattend : (e.attend m).apply t = (.ok (), u)) (hrest : Passes u ms v) : Passes s (m :: ms) v

/-- How the last round ends. -/
inductive Ends : σ → Ending τ → σ → Prop where
  /-- Nothing is left of the time. -/
  | late {s : σ} (h : b.remaining (e.look s).1 ≤ 0) : Ends s .expired (e.look s).2
  /-- The read takes all the time that one read has, and more would have been left. -/
  | stalled {s t : σ} {left : τ} {fault : Fault τ} (hread : e.Reads b s left (.error fault) t)
    (hkind : fault.kind = .timeout) (hless : b.readTimeout < left) : Ends s .stalled t
  /-- The read takes all that is left. -/
  | expired {s t : σ} {left : τ} {fault : Fault τ} (hread : e.Reads b s left (.error fault) t)
    (hkind : fault.kind = .timeout) (hless : ¬ b.readTimeout < left) : Ends s .expired t
  /-- Reading fails. -/
  | lost {s t : σ} {left : τ} {fault : Fault τ} (hread : e.Reads b s left (.error fault) t)
    (hkind : fault.kind ≠ .timeout) : Ends s (.failed fault) t
  /-- The response is read. -/
  | heard {s t : σ} {left : τ} {result : Json} {error : Option ErrorObject}
    (hread : e.Reads b s left (.ok (.response (some id) result error)) t) :
    Ends s (.ofResponse result error) t
  /-- Another message is read, and attending to it fails. -/
  | stuck {s t u : σ} {left : τ} {m : Message} {fault : Fault τ}
    (hread : e.Reads b s left (.ok m) t) (hother : m.respondsTo id = false)
    (hattend : (e.attend m).apply t = (.error fault, u)) :
    Ends s (.failed fault) u

end Surroundings

theorem ask_apply (e : Surroundings σ τ) (id : Int) (method : String) (params : Json) (s : σ) :
    (e.ask id method params).apply s = (e.send (.request (.number id) method params)).apply
      (e.note ⟨.debug, "Sending request " ++ toString id ++ ": " ++ method⟩ s) := rfl

variable [Timeline τ] {e : Surroundings σ τ} {b : Bounds τ} {id : MessageId}

/-! ### One round -/

section

variable {again : σ → Ending τ × σ} {s t u : σ} {left : τ}

/-- A round in which another message is read and attended to goes on after that. -/
theorem awaitRound_of_further {m : Message} (hread : e.Reads b s left (.ok m) t)
    (hother : m.respondsTo id = false) (hattend : (e.attend m).apply t = (.ok (), u)) :
    e.awaitRound b id again s = again u := by
  obtain ⟨rfl, hleft, hgot⟩ := hread
  rw [Surroundings.awaitRound]
  rw [Bounds.remaining] at hleft hgot
  simp only [if_neg hleft, hgot]
  cases m with
  | response rid result error =>
    have hid : rid ≠ some id := by simpa [Message.respondsTo] using hother
    cases hattend
    simp only [if_neg hid]
  | request rid method params => simp only [show (e.answer _).apply t = (.ok (), u) from hattend]
  | notification method params => simp only [show (e.answer _).apply t = (.ok (), u) from hattend]

theorem awaitRound_of_ends {ending : Ending τ} (h : e.Ends b id s ending t) :
    e.awaitRound b id again s = (ending, t) := by
  rw [Surroundings.awaitRound]
  cases h with
  | late hleft =>
    rw [Bounds.remaining] at hleft
    simp only [if_pos hleft]
  | stalled hread hkind hless =>
    obtain ⟨rfl, hleft, hgot⟩ := hread
    rw [Bounds.remaining] at hleft hgot hless
    simp only [if_neg hleft, hgot, if_pos hkind, if_pos hless]
  | expired hread hkind hless =>
    obtain ⟨rfl, hleft, hgot⟩ := hread
    rw [Bounds.remaining] at hleft hgot hless
    simp only [if_neg hleft, hgot, if_pos hkind, if_neg hless]
  | lost hread hkind =>
    obtain ⟨rfl, hleft, hgot⟩ := hread
    rw [Bounds.remaining] at hleft hgot
    simp only [if_neg hleft, hgot, if_neg hkind]
  | @heard _ _ result error hread =>
    obtain ⟨rfl, hleft, hgot⟩ := hread
    rw [Bounds.remaining] at hleft hgot
    simp only [if_neg hleft, hgot, if_true]
    cases error <;> rfl
  | @stuck w _ _ m fault hread hother hattend =>
    obtain ⟨rfl, hleft, hgot⟩ := hread
    rw [Bounds.remaining] at hleft hgot
    simp only [if_neg hleft, hgot]
    cases m with
    | response rid result error => cases hattend
    | request rid method params =>
      simp only [show (e.answer _).apply w = (.error fault, t) from hattend]
    | notification method params =>
      simp only [show (e.answer _).apply w = (.error fault, t) from hattend]

variable (e b id) in
/-- There is no other round: each ends waiting or goes on. -/
theorem ends_or_further (s : σ) : (∃ ending t, e.Ends b id s ending t) ∨
    ∃ left m t u, e.Reads b s left (.ok m) t ∧ m.respondsTo id = false ∧
      (e.attend m).apply t = (.ok (), u) := by
  by_cases hleft : b.remaining (e.look s).1 ≤ 0
  · exact .inl ⟨_, _, .late hleft⟩
  rcases hgot : (e.receive (earlier b.readTimeout (b.remaining (e.look s).1))).apply (e.look s).2
    with ⟨item, t⟩
  have hread : e.Reads b s _ item t := ⟨rfl, hleft, hgot⟩
  rcases item with fault | m
  · left
    by_cases hkind : fault.kind = .timeout
    · by_cases hless : b.readTimeout < b.remaining (e.look s).1
      · exact ⟨_, _, .stalled hread hkind hless⟩
      · exact ⟨_, _, .expired hread hkind hless⟩
    · exact ⟨_, _, .lost hread hkind⟩
  · cases hm : m.respondsTo id with
    | true =>
      obtain ⟨result, error, rfl⟩ := Message.respondsTo_eq_true hm
      exact .inl ⟨_, _, .heard hread⟩
    | false =>
      rcases hattend : (e.attend m).apply t with ⟨fault | ⟨⟩, u⟩
      · exact .inl ⟨_, _, .stuck hread hm hattend⟩
      · exact .inr ⟨_, m, t, u, hread, hm, hattend⟩

end

/-- Waiting stalls where a read gives up and more was left than one read has. -/
theorem ends_stalled_iff {s t : σ} : e.Ends b id s .stalled t ↔
    ∃ left fault, e.Reads b s left (.error fault) t ∧ fault.kind = .timeout ∧
      b.readTimeout < left := by
  constructor
  · intro hends
    generalize hending : (.stalled : Ending τ) = ending at hends
    cases hends with
    | stalled hread hkind hless => exact ⟨_, _, hread, hkind, hless⟩
    | @heard _ _ result error => cases error <;> cases hending
    | late | expired | lost | stuck => cases hending
  · rintro ⟨left, fault, hread, hkind, hless⟩
    exact .stalled hread hkind hless

/-- Waiting fails where reading or attending to a message fails. -/
theorem Surroundings.Ends.of_failed {s t : σ} {fault : Fault τ}
    (hends : e.Ends b id s (.failed fault) t) :
    (∃ left, e.Reads b s left (.error fault) t ∧ fault.kind ≠ .timeout) ∨
      ∃ left m u, e.Reads b s left (.ok m) u ∧ (e.attend m).apply u = (.error fault, t) := by
  generalize hending : Ending.failed fault = ending at hends
  cases hends with
  | lost hread hkind =>
    cases hending
    exact .inl ⟨_, hread, hkind⟩
  | stuck hread hother hattend =>
    cases hending
    exact .inr ⟨_, _, _, hread, hattend⟩
  | @heard _ _ result error => cases error <;> cases hending
  | late | stalled | expired => cases hending

/-! ### All rounds -/

omit [Timeline τ] in
/-- Attending to a message brings nothing to read. -/
theorem Surroundings.Dwindles.attend (h : e.Dwindles) (m : Message) (s : σ) :
    e.unread ((e.attend m).apply s).2 ≤ e.unread s := by
  cases m with
  | response rid result error => exact h.note _ s
  | request rid method params => exact h.answer _ s
  | notification method params => exact h.answer _ s

theorem Surroundings.Reads.unread_lt (h : e.Dwindles) {s t : σ} {left : τ} {m : Message}
    (hread : e.Reads b s left (.ok m) t) : e.unread t < e.unread s :=
  (h.receive hread.receive_eq).trans_le (h.look s)

/-- Waiting goes on where passing over messages leads: by induction on the messages. -/
theorem await_of_passes (h : e.Dwindles) {s t : σ} {ms : List Message}
    (hpasses : e.Passes b id s ms t) :
    e.await b id (e.unread s + 1) s = e.await b id (e.unread t + 1) t := by
  induction hpasses with
  | nil s => rfl
  | cons hread hother hattend _ ih =>
    rw [await_eq_round h, awaitRound_of_further hread hother hattend, ih]

variable (b id) in
/-- Waiting passes over messages and ends: by induction on what there is to read. -/
theorem exists_passes_ends (h : e.Dwindles) (s : σ) :
    ∃ ms t ending v, e.Passes b id s ms t ∧ e.Ends b id t ending v := by
  induction hn : e.unread s using Nat.strongRecOn generalizing s with
  | ind n ih =>
    rcases ends_or_further e b id s with ⟨ending, t, hends⟩ |
      ⟨left, m, t, u, hread, hother, hattend⟩
    · exact ⟨[], s, ending, t, .nil s, hends⟩
    · have hless : e.unread u < e.unread s := by
        have hu := h.attend m t
        rw [hattend] at hu
        exact hu.trans_lt (hread.unread_lt h)
      obtain ⟨ms, v, ending, w, hpasses, hends⟩ := ih _ (hn ▸ hless) u rfl
      exact ⟨m :: ms, v, ending, w, .cons hread hother hattend hpasses, hends⟩

/-- **Waiting comes to what passing over messages and ending leads to**, and to nothing else. -/
theorem await_eq_iff (h : e.Dwindles) {s v : σ} {ending : Ending τ} :
    e.await b id (e.unread s + 1) s = (ending, v) ↔
      ∃ ms t, e.Passes b id s ms t ∧ e.Ends b id t ending v := by
  have hends {ms : List Message} {t v : σ} {ending : Ending τ} (hpasses : e.Passes b id s ms t)
      (hends : e.Ends b id t ending v) : e.await b id (e.unread s + 1) s = (ending, v) := by
    rw [await_of_passes h hpasses, await_eq_round h, awaitRound_of_ends hends]
  constructor
  · intro hawait
    obtain ⟨ms, t, ending', v', hpasses, hlast⟩ := exists_passes_ends b id h s
    obtain ⟨rfl, rfl⟩ := Prod.mk.inj (hawait.symm.trans (hends hpasses hlast))
    exact ⟨ms, t, hpasses, hlast⟩
  · rintro ⟨ms, t, hpasses, hlast⟩
    exact hends hpasses hlast

/-! ### Requests -/

/-- A request that was sent waits, if its time can be counted. -/
theorem request_of_sent (e : Surroundings σ τ) {method : String} {params : Json}
    {timeout : Option τ} {x : Exchange τ} {s u : σ}
    (hsend : (e.ask (x.lastId + 1) method params).apply s = (.ok (), u))
    (hfits : Timeline.fits (timeout.getD x.requestTimeout) = true) :
    e.request method params timeout x s =
      let limit := timeout.getD x.requestTimeout
      let (start, u) := e.look u
      let (ending, t) := e.await ⟨start, limit, x.readTimeout⟩ (.number (x.lastId + 1))
        (e.unread u + 1) u
      (ending.outcome method limit x.readTimeout,
        { x with lastId := x.lastId + 1, state := ending.stateAfter }, t) := by
  rw [ask_apply] at hsend
  rw [Surroundings.request]
  simp only [hsend, hfits, if_true]

/-- A request that cannot be sent fails with the fault of sending it. -/
theorem request_of_not_sent (e : Surroundings σ τ) {method : String} {params : Json}
    {timeout : Option τ} {x : Exchange τ} {s u : σ} {fault : Fault τ}
    (hsend : (e.ask (x.lastId + 1) method params).apply s = (.error fault, u)) :
    e.request method params timeout x s =
      (.error fault, { x with
        lastId := x.lastId + 1, state := (Ending.failed fault).stateAfter }, u) := by
  rw [ask_apply] at hsend
  rw [Surroundings.request]
  simp only [hsend]
  rfl

end ClassOrder
