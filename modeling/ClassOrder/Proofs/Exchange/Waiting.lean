import ClassOrder.Exchange.Basic
import ClassOrder.Proofs.Action.Triple
import Mathlib.Tactic.SplitIfs

/-!
# Waiting for a response

What holds while an exchange waits and what holds once the response is there, over any connection.
All that happens in between is that messages are read, replies are sent and entries are logged,
so it is enough to know what these three do.

## Main definitions

* `attend` — what is done about a message that is not waited for.
* `Waits` — how waiting goes, one read after the other.
* `Link.Awaits` — what reading, replying and logging do while a request waits.
* `Link.Serves` — what they do while the server is served.

## Main results

* `awaitResponse_waits` — **that is how waiting goes.**
* `Waits.leads` — what waiting leads to.
* `Exchange.request_spec` — what a request leads to.
* `Exchange.request_keeps`, `Exchange.drain_keeps` — what a request and a drain keep.
-/

namespace ClassOrder

open ClassOrder.Action (Triple Keeps)

variable {σ τ : Type} {link : Link σ τ}

/-- While the request `id` waits, `I` holds; its response, once read, makes it `D`. -/
structure Link.Awaits (link : Link σ τ) (id : MessageId) (I D : σ → Prop) : Prop where
  note : ∀ r s, I s → I (link.note r s)
  reply : ∀ rid result, (link.send (.response (some rid) result none)).Keeps I
  receive : ∀ timeout, Triple I (link.receive timeout)
    (fun m s => match m with
      | .response rid _ _ => if rid = some id then D s else I s
      | _ => I s)
    (fun _ => I)

/-- Messages read, replies sent and entries logged keep `I`. -/
structure Link.Serves (link : Link σ τ) (I : σ → Prop) : Prop where
  note : ∀ r s, I s → I (link.note r s)
  reply : ∀ rid result, (link.send (.response (some rid) result none)).Keeps I
  receive : ∀ timeout, (link.receive timeout).Keeps I

theorem Link.Serves.awaits {I : σ → Prop} (h : link.Serves I) (id : MessageId) :
    link.Awaits id I I where
  note := h.note
  reply := h.reply
  receive timeout := (h.receive timeout).post
    (fun m s hs => by cases m <;> simp [hs]) (fun _ _ hs => hs)

/-- Whether waiting ended with the response. -/
def Ending.isAnswer : Ending τ → Bool
  | answered _ | refused _ => true
  | expired | stalled | failed _ => false

/-- Every reply is a response with an identifier and no error. -/
theorem replyTo_eq_some {p : Preferences} {m reply : Message}
    (h : (replyTo p m : Except (Fault τ) _) = .ok (some reply)) :
    ∃ rid result, reply = .response (some rid) result none := by
  cases m with
  | request id method params =>
    simp only [replyTo] at h
    split at h
    · split at h
      · exact ⟨id, _, by simpa using h.symm⟩
      · cases h
    · exact ⟨id, .null, by simpa using h.symm⟩
  | notification method params => cases h
  | response id result error => cases h

/-- Making a reply fails only because of what is asked. -/
theorem replyTo_eq_error {p : Preferences} {m : Message} {fault : Fault τ}
    (h : replyTo p m = .error fault) : fault = .wrongType := by
  cases m with
  | request id method params =>
    simp only [replyTo, settingsReply] at h
    split at h
    · split at h
      · cases h
      · next heq =>
        split at heq
        · split at heq
          · cases heq
          · cases heq
            cases h
            rfl
        · cases heq
    · cases h
  | notification method params => cases h
  | response id result error => cases h

/-- Replying fails because of what is asked or because the reply cannot be sent. -/
theorem answer_eq_error {p : Preferences} {m : Message} {fault : Fault τ} {s t : σ}
    (h : (answer link p m).apply s = (.error fault, t)) :
    fault = .wrongType ∨ ∃ reply u, (u = s ∨ ∃ r, u = link.note r s) ∧
      (link.send reply).apply u = (.error fault, t) := by
  rw [answer, Action.apply_ofFun] at h
  dsimp only at h
  split at h
  · next heq =>
    cases h
    exact .inl (replyTo_eq_error heq)
  · cases h
  · next reply heq =>
    refine .inr ⟨reply, _, ?_, h⟩
    split
    · exact .inr ⟨_, rfl⟩
    · exact .inl rfl

theorem answer_keeps {I : σ → Prop} (hnote : ∀ r s, I s → I (link.note r s))
    (hreply : ∀ rid result, (link.send (.response (some rid) result none)).Keeps I)
    (p : Preferences) (m : Message) : (answer link p m).Keeps I := by
  refine Keeps.of_apply fun s hs => ?_
  rw [answer, Action.apply_ofFun]
  dsimp only
  -- whatever comes of the reply, the note is made first
  split
  · split
    · exact hnote _ s hs
    · exact hs
  · split
    · exact hnote _ s hs
    · exact hs
  · next reply heq =>
    obtain ⟨rid, result, rfl⟩ := replyTo_eq_some heq
    refine (hreply rid result).apply ?_
    split
    · exact hnote _ s hs
    · exact hs

/-- What is done about a message that is not waited for: a response is put aside, and the server
gets its reply. -/
def attend (link : Link σ τ) (p : Preferences) : Message → Action σ τ Unit
  | .response rid _ _ => modify (link.note (discardNote rid))
  | m => answer link p m

/-- A message that is no response is answered. -/
theorem attend_of_ne_response {m : Message} (link : Link σ τ) (p : Preferences)
    (h : ∀ rid result error, m ≠ .response rid result error) :
    attend link p m = answer link p m := by
  cases m with
  | response rid result error => exact absurd rfl (h rid result error)
  | request rid method params => rfl
  | notification method params => rfl

theorem attend_cases (link : Link σ τ) (p : Preferences) (m : Message) :
    attend link p m = answer link p m ∨
      ∃ rid, attend link p m = modify (link.note (discardNote rid)) := by
  cases m with
  | response rid result error => exact .inr ⟨rid, rfl⟩
  | request rid method params => exact .inl rfl
  | notification method params => exact .inl rfl

theorem attend_keeps {I : σ → Prop} (hnote : ∀ r s, I s → I (link.note r s))
    (hreply : ∀ rid result, (link.send (.response (some rid) result none)).Keeps I)
    (p : Preferences) (m : Message) : (attend link p m).Keeps I := by
  rcases attend_cases link p m with heq | ⟨rid, heq⟩
  · exact heq ▸ answer_keeps hnote hreply p m
  · exact heq ▸ Keeps.modify (hnote _)

theorem attend_eq_error {p : Preferences} {m : Message} {fault : Fault τ} {s t : σ}
    (h : (attend link p m).apply s = (.error fault, t)) :
    fault = .wrongType ∨ ∃ reply u, (u = s ∨ ∃ r, u = link.note r s) ∧
      (link.send reply).apply u = (.error fault, t) := by
  rcases attend_cases link p m with heq | ⟨rid, heq⟩
  · exact answer_eq_error (heq ▸ h)
  · rw [heq] at h
    cases h

/-- How waiting ends with a response that holds a result or an error. -/
def Ending.ofResponse (result : Json) : Option ErrorObject → Ending τ
  | some error => .refused error
  | none => .answered result

variable [Timeline τ]

/-- Reading once, with something left of the time, gives an item and leads from `s` to `t`. -/
def Bounds.Reads (b : Bounds τ) (link : Link σ τ) (s : σ) (item : Except (Fault τ) Message)
    (t : σ) : Prop :=
  ¬ b.timeout - (link.now s - b.start) ≤ 0 ∧
    (link.receive (earlier b.readTimeout (b.timeout - (link.now s - b.start)))).apply s = (item, t)

/-- How waiting for the response to the request `id` goes, from a state to its ending and the state
that it leaves: one read after the other, each message attended to unless it is the response. -/
inductive Waits (link : Link σ τ) (p : Preferences) (b : Bounds τ) (id : MessageId) :
    σ → Ending τ → σ → Prop where
  /-- Nothing more is read. -/
  | stopped (s : σ) : Waits link p b id s .expired s
  /-- A read takes all the time that it has. -/
  | late {s t : σ} {fault : Fault τ} {ending : Ending τ} : b.Reads link s (.error fault) t →
    fault.kind = .timeout → ending = .stalled ∨ ending = .expired → Waits link p b id s ending t
  /-- Reading fails. -/
  | lost {s t : σ} {fault : Fault τ} : b.Reads link s (.error fault) t →
    fault.kind ≠ .timeout → Waits link p b id s (.failed fault) t
  /-- The response is read. -/
  | heard {s t : σ} {result : Json} {error : Option ErrorObject} :
    b.Reads link s (.ok (.response (some id) result error)) t →
    Waits link p b id s (.ofResponse result error) t
  /-- Another message is read, and attending to it fails. -/
  | stuck {s t u : σ} {m : Message} {fault : Fault τ} : b.Reads link s (.ok m) t →
    (∀ result error, m ≠ .response (some id) result error) →
    (attend link p m).apply t = (.error fault, u) → Waits link p b id s (.failed fault) u
  /-- Another message is read and attended to, and waiting goes on. -/
  | further {s t u v : σ} {m : Message} {ending : Ending τ} : b.Reads link s (.ok m) t →
    (∀ result error, m ≠ .response (some id) result error) →
    (attend link p m).apply t = (.ok (), u) → Waits link p b id u ending v →
    Waits link p b id s ending v

/-- **That is how waiting goes**: by induction on the messages that may still be read. -/
theorem awaitResponse_waits (link : Link σ τ) (p : Preferences) (b : Bounds τ) (id : MessageId)
    (reads : Nat) (s : σ) :
    Waits link p b id s (awaitResponse link p b id reads s).1
      (awaitResponse link p b id reads s).2 := by
  induction reads generalizing s with
  | zero => exact .stopped s
  | succ reads ih =>
    rw [awaitResponse]
    split
    · exact .stopped s
    · next hleft =>
      split
      · next fault t heq =>
        split
        · next hkind => exact .late ⟨hleft, heq⟩ hkind (by split <;> simp)
        · next hkind => exact .lost ⟨hleft, heq⟩ hkind
      · next rid result error t heq =>
        split
        · next hid =>
          -- the response that is waited for
          subst hid
          have hheard : Waits link p b id s (.ofResponse result error) t := .heard ⟨hleft, heq⟩
          cases error <;> exact hheard
        · next hid =>
          -- a response with another number is noted, and waiting goes on
          refine .further ⟨hleft, heq⟩ (fun result' error' hm => hid ?_) rfl (ih _)
          cases hm
          rfl
      · next m t hm heq =>
        have hattend := attend_of_ne_response link p hm
        have hother : ∀ result error, m ≠ .response (some id) result error := fun _ _ => hm _ _ _
        split
        · next heq' => exact .stuck ⟨hleft, heq⟩ hother (hattend ▸ heq')
        · next heq' => exact .further ⟨hleft, heq⟩ hother (hattend ▸ heq') (ih _)

omit [Timeline τ] in
/-- A message that is not the response leaves the request waiting. -/
theorem Link.Awaits.of_other {id : MessageId} {I D : σ → Prop} (h : link.Awaits id I D)
    {timeout : τ} {s t : σ} {m : Message} (hs : I s)
    (hread : (link.receive timeout).apply s = (.ok m, t))
    (hm : ∀ result error, m ≠ .response (some id) result error) : I t := by
  have ht := (h.receive timeout).of_ok hs hread
  cases m with
  | response rid result error =>
    have hid : rid ≠ some id := by
      rintro rfl
      exact hm result error rfl
    dsimp only at ht
    rwa [if_neg hid] at ht
  | request rid method params => exact ht
  | notification method params => exact ht

/-- **What waiting for a response leads to**: what holds while waiting holds before every read. -/
theorem Waits.leads {id : MessageId} {I D : σ → Prop} (h : link.Awaits id I D) {p : Preferences}
    {b : Bounds τ} {s t : σ} {ending : Ending τ} (hwaits : Waits link p b id s ending t)
    (hs : I s) : if ending.isAnswer = true then D t else I t := by
  induction hwaits with
  | stopped s => exact hs
  | late hread hkind hending =>
    have ht := (h.receive _).of_error hs hread.2
    rcases hending with rfl | rfl <;> exact ht
  | lost hread hkind => exact (h.receive _).of_error hs hread.2
  | @heard s t result error hread =>
    have ht := (h.receive _).of_ok hs hread.2
    dsimp only at ht
    rw [if_pos rfl] at ht
    cases error <;> exact ht
  | stuck hread hm hattend =>
    exact Triple.of_error (attend_keeps h.note h.reply _ _) (h.of_other hs hread.2 hm) hattend
  | further hread hm hattend _ ih =>
    exact ih (Triple.of_ok (attend_keeps h.note h.reply _ _) (h.of_other hs hread.2 hm) hattend)

/-- What a request leads to: its result comes with `D`, and a failure with one of the three. -/
theorem Exchange.request_spec (x : Exchange τ) (method : String) (params : Json)
    {B I D F : σ → Prop} (hnote : ∀ r s, B s → B (link.note r s))
    (hsend : Triple B (link.send (.request (.number (x.lastId + 1)) method params))
      (fun _ => I) (fun _ => F))
    (h : link.Awaits (.number (x.lastId + 1)) I D) (timeout : Option τ) {s : σ} (hs : B s) :
    match x.request link method params timeout s with
    | (.ok _, _, t) => D t
    | (.error _, _, t) => D t ∨ I t ∨ F t := by
  have hsent := hsend _ (hnote ⟨.debug, "Sending request " ++ toString (x.lastId + 1) ++ ": " ++
    method⟩ s hs)
  unfold Exchange.request
  dsimp only
  generalize (link.send (.request (.number (x.lastId + 1)) method params)).apply _ = sent at hsent
  obtain ⟨fault | ⟨⟩, t⟩ := sent
  · exact .inr (.inr hsent)
  · dsimp only
    -- a time that no clock counts is noticed only after the request was sent
    split_ifs with hfits
    · have hwait := (awaitResponse_waits link x.preferences
        ⟨link.now t, timeout.getD x.requestTimeout, x.readTimeout⟩ _ (link.unread t + 1) t).leads
          h hsent
      generalize awaitResponse link x.preferences _ _ _ t = ended at hwait
      obtain ⟨ending, u⟩ := ended
      cases ending with
      | answered result => exact hwait
      | refused error => exact .inl hwait
      | expired => exact .inr (.inl hwait)
      | stalled => exact .inr (.inl hwait)
      | failed fault => exact .inr (.inl hwait)
    · exact .inr (.inl hsent)

/-- What holds while the server is served holds after a request, however it ends. -/
theorem Exchange.request_keeps {I : σ → Prop} (h : link.Serves I) {method : String} {params : Json}
    (hsend : ∀ id, (link.send (.request id method params)).Keeps I) (timeout : Option τ)
    (x : Exchange τ) {s : σ} (hs : I s) : I (x.request link method params timeout s).2.2 := by
  have hspec := x.request_spec method params h.note (hsend _) (h.awaits _) timeout hs
  generalize x.request link method params timeout s = talked at hspec
  obtain ⟨fault | result, y, t⟩ := talked
  · rcases hspec with ht | ht | ht <;> exact ht
  · exact hspec

theorem Exchange.drainFrom_keeps {I : σ → Prop} (h : link.Serves I) (p : Preferences)
    (start timeout : τ) (reads handled : Nat) (s : σ) (hs : I s) :
    I (drainFrom link p start timeout reads handled s).2 := by
  induction reads generalizing handled s with
  | zero => exact hs
  | succ reads ih =>
    rw [drainFrom]
    split
    · exact hs
    · have hread := (h.receive (timeout - (link.now s - start))).apply hs
      split
      · next heq =>
        rw [heq] at hread
        split <;> exact hread
      · next heq =>
        rw [heq] at hread
        exact ih _ _ (h.note _ _ hread)
      · next m t _ heq =>
        rw [heq] at hread
        have hanswered := (answer_keeps h.note h.reply p m).apply hread
        split
        · next heq' => rwa [heq'] at hanswered
        · next heq' =>
          rw [heq'] at hanswered
          exact ih _ _ hanswered

/-- What holds while the server is served holds after a drain, however it ends. -/
theorem Exchange.drain_keeps {I : σ → Prop} (h : link.Serves I) (timeout : τ) (x : Exchange τ)
    {s : σ} (hs : I s) : I (x.drain link timeout s).2 := by
  unfold drain
  split
  · exact drainFrom_keeps h _ _ _ _ _ s hs
  · exact hs

end ClassOrder
