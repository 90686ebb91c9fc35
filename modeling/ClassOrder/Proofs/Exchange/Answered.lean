import ClassOrder.Proofs.Exchange.Waiting

/-!
# How a request ends

A request that is answered, with a result or with an error, gives what its response holds, and that
response is the last thing that was read: nothing is read or sent after it.  Otherwise it fails
because of what sending or receiving failed with, or because its time was over.

## Main definitions

* `Link.Reads`, `Link.Answers` — reading a message, or the response to a request with a result.
* `Link.FailsBy` — what sending and receiving fail with.

## Main results

* `Waits.responded` — **waiting that is answered ends with the response.**
* `Waits.fails` — what waiting fails with.
* `Exchange.request_cases` — a request sends, waits, and gives what that led to.
* `Exchange.request_answered` — a request that gives a result ends with the response.
* `Exchange.request_ends` — a request ends with the response or fails for want of one.
-/

namespace ClassOrder

open ClassOrder.Action (Triple Keeps)

variable {σ τ : Type} {link : Link σ τ} [Timeline τ]

/-- Receiving a message leads from `s` to `t`. -/
def Link.Reads (link : Link σ τ) (m : Message) (s t : σ) : Prop :=
  ∃ timeout, (link.receive timeout).apply s = (.ok m, t)

/-- Receiving the response to the request `id` with a result leads from `s` to `t`. -/
def Link.Answers (link : Link σ τ) (id : MessageId) (result : Json) (s t : σ) : Prop :=
  ∃ timeout, (link.receive timeout).apply s = (.ok (.response (some id) result none), t)

/-- **Waiting that is answered ends with the response**: what holds while waiting holds right before
the response is read. -/
theorem Waits.responded {id : MessageId} {I D : σ → Prop} (h : link.Awaits id I D)
    {p : Preferences} {b : Bounds τ} {s t : σ} {ending : Ending τ}
    (hwaits : Waits link p b id s ending t) (hs : I s) (hanswer : ending.isAnswer = true) :
    ∃ u result error, I u ∧ link.Reads (.response (some id) result error) u t ∧
      ending = Ending.ofResponse result error := by
  induction hwaits with
  | stopped s => cases hanswer
  | late hread hkind hending => rcases hending with rfl | rfl <;> cases hanswer
  | lost hread hkind => cases hanswer
  | heard hread => exact ⟨_, _, _, hs, ⟨_, hread.2⟩, rfl⟩
  | stuck hread hm hattend => cases hanswer
  | further hread hm hattend _ ih =>
    have ht := h.of_other hs hread.2 hm
    exact ih (Triple.of_ok (attend_keeps h.note h.reply _ _) ht hattend) hanswer

/-! ### What waiting fails with -/

/-- While `I` holds, sending and receiving fail with faults that have `F` and keep `I`. -/
structure Link.FailsBy (link : Link σ τ) (I : σ → Prop) (F : Fault τ → Prop) : Prop where
  note : ∀ r s, I s → I (link.note r s)
  send : ∀ m, Triple I (link.send m) (fun _ => I) (fun fault s => I s ∧ F fault)
  receive : ∀ timeout, Triple I (link.receive timeout) (fun _ => I) (fun fault s => I s ∧ F fault)

omit [Timeline τ] in
theorem Link.FailsBy.send_keeps {I : σ → Prop} {F : Fault τ → Prop} (h : link.FailsBy I F)
    (m : Message) : (link.send m).Keeps I :=
  (h.send m).post (fun _ _ hs => hs) fun _ _ hs => hs.1

omit [Timeline τ] in
theorem Link.FailsBy.serves {I : σ → Prop} {F : Fault τ → Prop} (h : link.FailsBy I F) :
    link.Serves I where
  note := h.note
  reply _ _ := h.send_keeps _
  receive timeout := (h.receive timeout).post (fun _ _ hs => hs) fun _ _ hs => hs.1

/-- What waiting fails with: a fault of the link, or that the server asks for what cannot be
answered. -/
theorem Waits.fails {id : MessageId} {I : σ → Prop} {F : Fault τ → Prop} (h : link.FailsBy I F)
    {p : Preferences} {b : Bounds τ} {s t : σ} {ending : Ending τ}
    (hwaits : Waits link p b id s ending t) (hs : I s) {fault : Fault τ}
    (hfailed : ending = .failed fault) : F fault ∨ fault = .wrongType := by
  induction hwaits with
  | stopped s => cases hfailed
  | late hread hkind hending =>
    rcases hending with rfl | rfl
    · cases hfailed
    · cases hfailed
  | lost hread hkind =>
    cases hfailed
    exact .inl ((h.receive _).of_error hs hread.2).2
  | @heard s t result error hread => cases error <;> cases hfailed
  | stuck hread hm hattend =>
    cases hfailed
    have ht := (h.receive _).of_ok hs hread.2
    rcases attend_eq_error hattend with hwrong | ⟨reply, w, hw, hsend⟩
    · exact .inr hwrong
    · -- the note about the message comes before the reply
      have hnoted : I w := by
        rcases hw with rfl | ⟨r, rfl⟩
        · exact ht
        · exact h.note r _ ht
      exact .inl ((h.send reply).of_error hnoted hsend).2
  | further hread hm hattend _ ih =>
    have ht := (h.receive _).of_ok hs hread.2
    exact ih (Triple.of_ok (attend_keeps h.note h.serves.reply _ _) ht hattend) hfailed

/-! ### Requests -/

/-- **A request sends, waits, and gives what that led to**: sending failed, or the time is none that
a clock counts, or waiting ended. -/
theorem Exchange.request_cases {x y : Exchange τ} {method : String} {params : Json}
    {B I : σ → Prop} {F : Fault τ → σ → Prop} (hnote : ∀ r s, B s → B (link.note r s))
    (hsend : Triple B (link.send (.request (.number (x.lastId + 1)) method params))
      (fun _ => I) F) {timeout : Option τ} {s t : σ} {r : Except (Fault τ) Json}
    (hs : B s) (hrun : x.request link method params timeout s = (r, y, t)) :
    ∃ ending : Ending τ,
      r = ending.outcome method (timeout.getD x.requestTimeout) x.readTimeout ∧
      y = { x with lastId := x.lastId + 1, state := ending.stateAfter } ∧
      ((∃ fault, ending = .failed fault ∧ F fault t) ∨ ending = .failed .timeTooLong ∨
        ∃ b u, I u ∧ Waits link x.preferences b (.number (x.lastId + 1)) u ending t) := by
  have hsent := hsend _ (hnote ⟨.debug, "Sending request " ++ toString (x.lastId + 1) ++ ": " ++
    method⟩ s hs)
  unfold Exchange.request at hrun
  dsimp only at hrun
  generalize (link.send (.request (.number (x.lastId + 1)) method params)).apply _ = sent
    at hsent hrun
  obtain ⟨fault | ⟨⟩, v⟩ := sent
  · cases hrun
    exact ⟨.failed fault, rfl, rfl, .inl ⟨fault, rfl, hsent⟩⟩
  · dsimp only at hrun
    split at hrun
    · have hwaits := awaitResponse_waits link x.preferences
        ⟨link.now v, timeout.getD x.requestTimeout, x.readTimeout⟩ (.number (x.lastId + 1))
        (link.unread v + 1) v
      generalize awaitResponse link x.preferences _ _ _ v = ended at hrun hwaits
      obtain ⟨ending, w⟩ := ended
      cases hrun
      exact ⟨ending, rfl, rfl, .inr (.inr ⟨_, v, hsent, hwaits⟩)⟩
    · cases hrun
      exact ⟨_, rfl, rfl, .inr (.inl rfl)⟩

/-- **A request that gives a result ends with the response.** -/
theorem Exchange.request_answered {x y : Exchange τ} {method : String} {params : Json}
    {B I D F : σ → Prop} (hnote : ∀ r s, B s → B (link.note r s))
    (hsend : Triple B (link.send (.request (.number (x.lastId + 1)) method params))
      (fun _ => I) (fun _ => F))
    (h : link.Awaits (.number (x.lastId + 1)) I D) {timeout : Option τ} {s t : σ} {result : Json}
    (hs : B s) (hrun : x.request link method params timeout s = (.ok result, y, t)) :
    ∃ u, I u ∧ link.Answers (.number (x.lastId + 1)) result u t := by
  obtain ⟨ending, hresult, -, hended⟩ := Exchange.request_cases hnote hsend hs hrun
  -- of the endings only an answer gives a result
  cases ending with
  | answered answer =>
    cases hresult
    rcases hended with ⟨fault, hfailed, -⟩ | hlong | ⟨b, u, hu, hwaits⟩
    · cases hfailed
    · cases hlong
    · obtain ⟨v, given, error, hv, hreads, hending⟩ := hwaits.responded h hu rfl
      cases error <;> cases hending
      exact ⟨v, hv, hreads⟩
  | refused error => cases hresult
  | expired => cases hresult
  | stalled => cases hresult
  | failed fault => cases hresult

/-- **A request ends with the response**, which holds its result or the server's error, **or fails
for want of one.** -/
theorem Exchange.request_ends {x y : Exchange τ} {method : String} {params : Json}
    {I : σ → Prop} {F : Fault τ → Prop} (h : link.FailsBy I F) {timeout : Option τ} {s t : σ}
    {r : Except (Fault τ) Json} (hs : I s)
    (hrun : x.request link method params timeout s = (r, y, t)) :
    (∃ u result error, I u ∧
        link.Reads (.response (some (.number (x.lastId + 1))) result error) u t ∧
        y = { x with lastId := x.lastId + 1, state := .completed } ∧
        r = match error with
          | some e => .error (.refused method e)
          | none => .ok result) ∨
      ∃ fault, r = .error fault ∧
        (F fault ∨ fault = .wrongType ∨ fault = .timeTooLong ∨ fault.kind = .timeout) := by
  obtain ⟨ending, rfl, rfl, hended⟩ := Exchange.request_cases h.note (h.send _) hs hrun
  -- only waiting ends with an answer, and then the response was read last
  have hresponse (hanswer : ending.isAnswer = true) : ∃ u result error, I u ∧
      link.Reads (.response (some (.number (x.lastId + 1))) result error) u t ∧
        ending = Ending.ofResponse result error := by
    rcases hended with ⟨fault, rfl, -⟩ | rfl | ⟨b, u, hu, hwaits⟩
    · cases hanswer
    · cases hanswer
    · exact hwaits.responded (h.serves.awaits _) hu hanswer
  cases ending with
  | answered answer =>
    obtain ⟨u, result, error, hu, hreads, hending⟩ := hresponse rfl
    cases error <;> cases hending
    exact .inl ⟨u, answer, none, hu, hreads, rfl, rfl⟩
  | refused e =>
    obtain ⟨u, result, error, hu, hreads, hending⟩ := hresponse rfl
    cases error <;> cases hending
    exact .inl ⟨u, result, some e, hu, hreads, rfl, rfl⟩
  | expired => exact .inr ⟨_, rfl, .inr (.inr (.inr rfl))⟩
  | stalled => exact .inr ⟨_, rfl, .inr (.inr (.inr rfl))⟩
  | failed fault =>
    refine .inr ⟨fault, rfl, ?_⟩
    rcases hended with ⟨f, hf, -, hF⟩ | hlong | ⟨b, u, hu, hwaits⟩
    · cases hf
      exact .inl hF
    · cases hlong
      exact .inr (.inr (.inl rfl))
    · exact (hwaits.fails h hu rfl).imp id .inl

end ClassOrder
