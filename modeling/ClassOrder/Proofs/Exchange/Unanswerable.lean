import ClassOrder.Proofs.ExactTime
import ClassOrder.Proofs.Exchange.Answered
import ClassOrder.Proofs.Exchange.Rounds
import ClassOrder.Proofs.Json.Fields

/-!
# Requests of the server that cannot be answered

A server that asks waits, so every request is answered with a response of its identifier, whatever
it asks for.  There is one exception: a request for settings whose items are something that cannot
be run through, and that is not as good as none.  Making a reply to it fails, and an exchange that
reads it fails with that; nothing else that a server asks makes an exchange fail.

## Main definitions

* `Message.Unanswerable` — the requests that cannot be answered.
* `Link.Meets`, `Exchange.RequestMeets`, `Exchange.DrainMeets` — a message is met while a response
  is waited for or the server is drained.

## Main results

* `replyTo_eq_response_iff` — what is answered.
* `Link.Meets.comesTo` — what meets a message comes to it before it has read all that it may.
* `awaitResponse_wrongType_iff`, `drainFrom_wrongType_iff` — waiting fails over what is asked
  exactly if something is asked that cannot be answered.
* `answers_requests_iff` — **every request is answered but those**, and they are all that makes an
  exchange fail over what a server asks.
-/

namespace ClassOrder

open ClassOrder.Action (Triple Keeps)

variable {σ τ : Type}

/-- A request for settings that cannot be answered: what it holds as its items is no list, no text
and no object, and neither null, false nor zero. -/
def Message.Unanswerable : Message → Prop
  | .request _ method params =>
    method = Method.configuration ∧ ∃ items, params.Holds "items" items ∧ items.IsScalar
  | .notification .. | .response .. => False

/-! ### Replies -/

theorem isScalar_iff {items : Json} (hfilled : items.isFilled = true) :
    items.IsScalar ↔ itemsOf? items = none := by
  cases items with
  | null => cases hfilled
  | array items => exact ⟨fun h => absurd rfl (h.not_array items), nofun⟩
  | string text => exact ⟨fun h => absurd rfl (h.not_string text), nofun⟩
  | object fields => exact ⟨fun h => absurd rfl (h.not_object fields), nofun⟩
  | bool b => exact ⟨fun _ => rfl, fun _ => ⟨nofun, nofun, nofun⟩⟩
  | int n => exact ⟨fun _ => rfl, fun _ => ⟨nofun, nofun, nofun⟩⟩
  | float x => exact ⟨fun _ => rfl, fun _ => ⟨nofun, nofun, nofun⟩⟩

theorem settingsReply_cases (p : Preferences) (params : Json) :
    (∃ items, params.Holds "items" items ∧ items.IsScalar) ∧
        settingsReply (τ := τ) p params = .error .wrongType ∨
      (¬ ∃ items, params.Holds "items" items ∧ items.IsScalar) ∧
        ∃ result, settingsReply (τ := τ) p params = .ok result := by
  rw [settingsReply]
  by_cases hfilled : (params.fieldOrNull "items").isFilled = true
  · have hholds : params.Holds "items" (params.fieldOrNull "items") :=
      Json.holds_iff.mpr ⟨rfl, hfilled⟩
    simp only [hfilled, if_true]
    cases hitems : itemsOf? (params.fieldOrNull "items") with
    | none => exact .inl ⟨⟨_, hholds, (isScalar_iff hfilled).mpr hitems⟩, rfl⟩
    | some items =>
      refine .inr ⟨?_, _, rfl⟩
      rintro ⟨other, hother, hscalar⟩
      obtain rfl := hholds.unique hother
      rw [(isScalar_iff hfilled).mp hscalar] at hitems
      cases hitems
  · simp only [hfilled]
    refine .inr ⟨?_, _, rfl⟩
    rintro ⟨other, hother, -⟩
    obtain ⟨rfl, hother⟩ := Json.holds_iff.mp hother
    exact hfilled hother

theorem replyTo_of_unanswerable {m : Message} (h : m.Unanswerable) (p : Preferences) :
    replyTo (τ := τ) p m = .error .wrongType := by
  cases m with
  | request id method params =>
    obtain ⟨rfl, hitems⟩ := h
    rcases settingsReply_cases (τ := τ) p params with ⟨-, hreply⟩ | ⟨hnot, -⟩
    · rw [replyTo, if_pos rfl, hreply]
    · exact absurd hitems hnot
  | notification method params => cases h
  | response id result error => cases h

/-- **What is answered**: a request gets a response of its identifier without an error exactly if
it can be answered. -/
theorem replyTo_eq_response_iff (p : Preferences) (id : MessageId) (method : String)
    (params : Json) :
    (∃ result, replyTo (τ := τ) p (.request id method params) =
        .ok (some (.response (some id) result none))) ↔
      ¬ (Message.request id method params).Unanswerable := by
  constructor
  · rintro ⟨result, hreply⟩ hunanswerable
    rw [replyTo_of_unanswerable hunanswerable] at hreply
    cases hreply
  · intro hanswerable
    rw [replyTo]
    split
    · next hmethod =>
      rcases settingsReply_cases (τ := τ) p params with ⟨hitems, -⟩ | ⟨-, result, hreply⟩
      · exact absurd ⟨hmethod, hitems⟩ hanswerable
      · exact ⟨result, by rw [hreply]⟩
    · exact ⟨.null, rfl⟩

/-- Making a reply fails only for a request that cannot be answered. -/
theorem unanswerable_of_replyTo_error {p : Preferences} {m : Message} {fault : Fault τ}
    (h : replyTo p m = .error fault) : m.Unanswerable := by
  cases m with
  | request id method params =>
    by_contra hanswerable
    obtain ⟨result, hreply⟩ := (replyTo_eq_response_iff (τ := τ) p id method params).mpr hanswerable
    rw [hreply] at h
    cases h
  | notification method params => cases h
  | response id result error => cases h

/-! ### Attending to a message -/

variable {link : Link σ τ} {p : Preferences} {m : Message} {I : σ → Prop} {s t u : σ}

/-- A request that cannot be answered makes attending to it fail. -/
theorem attend_of_unanswerable (h : m.Unanswerable) (link : Link σ τ) (p : Preferences) (s : σ) :
    ∃ t, (attend link p m).apply s = (.error .wrongType, t) := by
  have hreply := replyTo_of_unanswerable (τ := τ) h p
  cases m with
  | request id method params =>
    change ∃ t, (answer link p _).apply s = _
    rw [answer, Action.apply_ofFun]
    dsimp only
    rw [hreply]
    exact ⟨_, rfl⟩
  | notification method params => cases h
  | response id result error => cases h

/-- Nothing else makes attending to a message fail in that way, if sending does not. -/
theorem unanswerable_of_attend (h : link.FailsBy I (· ≠ .wrongType)) (hs : I s)
    (hattend : (attend link p m).apply s = (.error .wrongType, t)) : m.Unanswerable := by
  rcases attend_cases link p m with heq | ⟨rid, heq⟩
  · rw [heq, answer, Action.apply_ofFun] at hattend
    dsimp only at hattend
    split at hattend
    · next hreply => exact unanswerable_of_replyTo_error hreply
    · cases hattend
    · -- sending the reply fails in other ways
      refine absurd rfl ((h.send _).of_error ?_ hattend).2
      split
      · exact h.note _ s hs
      · exact hs
  · rw [heq] at hattend
    cases hattend

/-- Attending to a message leaves no more to read. -/
theorem attend_unread (h : link.Dwindles) (p : Preferences) (m : Message) (s : σ) :
    link.unread ((attend link p m).apply s).2 ≤ link.unread s :=
  (attend_keeps (I := fun t => link.unread t ≤ link.unread s)
    (fun r t ht => (h.note r t).trans ht)
    (fun _ _ => Keeps.of_apply fun t ht => (h.send _ t).trans ht) p m).apply (Nat.le_refl _)

/-! ### Meeting a message -/

/-- A message is met: it is read, at once or after other messages, none of which ends the matter
and each of which is attended to.  `reads` tells what reading once may lead to. -/
inductive Link.Meets (link : Link σ τ) (p : Preferences)
    (reads : σ → Except (Fault τ) Message → σ → Prop) (ends : Message → Prop) (m : Message) :
    σ → Prop
  | now {s t : σ} (hread : reads s (.ok m) t) : Meets link p reads ends m s
  | later {s t u : σ} {other : Message} (hread : reads s (.ok other) t) (hother : ¬ ends other)
    (hattend : (attend link p other).apply t = (.ok (), u))
    (hrest : Meets link p reads ends m u) : Meets link p reads ends m s

theorem Message.Unanswerable.not_respondsTo (h : m.Unanswerable) (id : MessageId) :
    ¬ m.respondsTo id = true := by
  intro hresponds
  obtain ⟨result, error, rfl⟩ := Message.respondsTo_eq_true hresponds
  exact h

/-- **What meets a message comes to it** before the messages that may be read are used up: by
induction on the messages before it, each of which leaves less to read. -/
theorem Link.Meets.comesTo {reads : σ → Except (Fault τ) Message → σ → Prop}
    {ends : Message → Prop} (fails : Nat → σ → Prop) (h : link.Dwindles)
    (hreads : ∀ {s t m}, reads s (.ok m) t → ∃ timeout, (link.receive timeout).apply s = (.ok m, t))
    (hnow : ∀ {s t} n, reads s (.ok m) t → fails (n + 1) s)
    (hlater : ∀ {s t u other} n, reads s (.ok other) t → ¬ ends other →
      (attend link p other).apply t = (.ok (), u) → fails n u → fails (n + 1) s)
    (hmeets : link.Meets p reads ends m s) {n : Nat} (hn : link.unread s < n) : fails n s := by
  induction hmeets generalizing n with
  | now hread =>
    cases n with
    | zero => omega
    | succ n => exact hnow n hread
  | @later s t u other hread hother hattend _ ih =>
    cases n with
    | zero => omega
    | succ n =>
      obtain ⟨timeout, hreceive⟩ := hreads hread
      have hless := h.receive hreceive
      have hle := attend_unread h p other t
      rw [hattend] at hle
      dsimp only at hle
      exact hlater n hread hother hattend (ih (by omega))

variable [Timeline τ] {b : Bounds τ} {id : MessageId}

/-! ### Waiting -/

/-- A message that is not the response is attended to, and waiting goes on if that does not
fail. -/
theorem awaitResponse_of_other (hread : b.Reads link s (.ok m) t) (hm : ¬ m.respondsTo id = true)
    (reads : Nat) :
    awaitResponse link p b id (reads + 1) s =
      match (attend link p m).apply t with
      | (.error fault, u) => (.failed fault, u)
      | (.ok (), u) => awaitResponse link p b id reads u := by
  rw [awaitResponse, if_neg hread.1, hread.2]
  cases m with
  | response rid result error =>
    have hid : rid ≠ some id := by
      rintro rfl
      exact hm (by simp [Message.respondsTo])
    dsimp only
    rw [if_neg hid]
    rfl
  | request rid method params => rfl
  | notification method params => rfl

/-- Waiting that fails over what is asked met something that cannot be answered: by induction on
how waiting went. -/
theorem Waits.meets (h : link.FailsBy I (· ≠ .wrongType)) {ending : Ending τ}
    (hwaits : Waits link p b id s ending t) (hs : I s) (hending : ending = .failed .wrongType) :
    ∃ m, m.Unanswerable ∧ link.Meets p (b.Reads link) (·.respondsTo id = true) m s := by
  induction hwaits with
  | stopped s => cases hending
  | late hread hkind hlate => rcases hlate with rfl | rfl <;> cases hending
  | lost hread hkind =>
    cases hending
    exact absurd rfl ((h.receive _).of_error hs hread.2).2
  | @heard s t result error hread => cases error <;> cases hending
  | stuck hread hm hattend =>
    cases hending
    have ht := (h.receive _).of_ok hs hread.2
    exact ⟨_, unanswerable_of_attend h ht hattend, .now hread⟩
  | further hread hm hattend hrest ih =>
    have ht := (h.receive _).of_ok hs hread.2
    have hu := Triple.of_ok (attend_keeps h.note h.serves.reply _ _) ht hattend
    obtain ⟨m, hm', hmeets⟩ := ih hu hending
    refine ⟨m, hm', .later hread (fun hresponds => ?_) hattend hmeets⟩
    obtain ⟨result, error, heq⟩ := Message.respondsTo_eq_true hresponds
    exact hm result error heq

/-- Waiting that meets something that cannot be answered fails, however many messages more may be
read. -/
theorem awaitResponse_of_meets (h : link.Dwindles) (hm : m.Unanswerable)
    (hmeets : link.Meets p (b.Reads link) (·.respondsTo id = true) m s) {reads : Nat}
    (hreads : link.unread s < reads) :
    (awaitResponse link p b id reads s).1 = .failed .wrongType := by
  refine hmeets.comesTo (fun n s => (awaitResponse link p b id n s).1 = _) h
    (fun hread => ⟨_, hread.2⟩) (fun {s t} n hread => ?_)
    (fun n hread hother hattend hrest => ?_) hreads
  · obtain ⟨u, hattend⟩ := attend_of_unanswerable hm link p t
    rw [awaitResponse_of_other hread (hm.not_respondsTo id), hattend]
  · rw [awaitResponse_of_other hread hother, hattend]
    exact hrest

/-- **Waiting fails over what is asked** exactly if it meets something that cannot be answered. -/
theorem awaitResponse_wrongType_iff (hdwindles : link.Dwindles)
    (h : link.FailsBy I (· ≠ .wrongType)) (hs : I s) :
    (awaitResponse link p b id (link.unread s + 1) s).1 = .failed .wrongType ↔
      ∃ m, m.Unanswerable ∧ link.Meets p (b.Reads link) (·.respondsTo id = true) m s :=
  ⟨(awaitResponse_waits link p b id _ s).meets h hs,
    fun ⟨_, hm, hmeets⟩ => awaitResponse_of_meets hdwindles hm hmeets (Nat.lt_succ_self _)⟩

/-! ### Draining -/

/-- Reading once in a drain, with something left of its time, gives an item and leads from `s` to
`t`. -/
def Link.DrainReads (link : Link σ τ) (start timeout : τ) (s : σ)
    (item : Except (Fault τ) Message) (t : σ) : Prop :=
  ¬ timeout - (link.now s - start) ≤ 0 ∧
    (link.receive (timeout - (link.now s - start))).apply s = (item, t)

/-- How many messages were handled, with one more. -/
def Message.countOn (handled : Nat) : Message → Nat
  | .response .. => handled
  | .request .. | .notification .. => handled + 1

variable {start timeout : τ} {handled : Nat}

/-- A message is attended to, and draining goes on if that does not fail. -/
theorem drainFrom_of_message (hread : link.DrainReads start timeout s (.ok m) t) (reads : Nat) :
    Exchange.drainFrom link p start timeout (reads + 1) handled s =
      match (attend link p m).apply t with
      | (.error fault, u) => (.error fault, u)
      | (.ok (), u) => Exchange.drainFrom link p start timeout reads (m.countOn handled) u := by
  rw [Exchange.drainFrom, if_neg hread.1, hread.2]
  cases m with
  | response rid result error => rfl
  | request rid method params => rfl
  | notification method params => rfl

/-- Draining that fails over what is asked met something that cannot be answered. -/
theorem meets_of_drainFrom (h : link.FailsBy I (· ≠ .wrongType)) {reads : Nat} (hs : I s)
    (hdrain : (Exchange.drainFrom link p start timeout reads handled s).1 = .error .wrongType) :
    ∃ m, m.Unanswerable ∧
      link.Meets p (link.DrainReads start timeout) (fun _ => False) m s := by
  induction reads generalizing handled s with
  | zero => cases hdrain
  | succ reads ih =>
    by_cases hleft : timeout - (link.now s - start) ≤ 0
    · rw [Exchange.drainFrom, if_pos hleft] at hdrain
      cases hdrain
    · rcases hread : (link.receive (timeout - (link.now s - start))).apply s with ⟨fault | m, t⟩
      · rw [Exchange.drainFrom, if_neg hleft, hread] at hdrain
        dsimp only at hdrain
        split at hdrain
        · cases hdrain
        · cases hdrain
          -- a read does not fail like that
          exact absurd rfl ((h.receive _).of_error hs hread).2
      · have hreads : link.DrainReads start timeout s (.ok m) t := ⟨hleft, hread⟩
        have ht := (h.receive _).of_ok hs hread
        rw [drainFrom_of_message hreads] at hdrain
        rcases hattend : (attend link p m).apply t with ⟨fault | ⟨⟩, u⟩
        · rw [hattend] at hdrain
          cases hdrain
          exact ⟨m, unanswerable_of_attend h ht hattend, .now hreads⟩
        · rw [hattend] at hdrain
          have hu := Triple.of_ok (attend_keeps h.note h.serves.reply _ _) ht hattend
          obtain ⟨m', hm', hmeets⟩ := ih hu hdrain
          exact ⟨m', hm', .later hreads id hattend hmeets⟩

/-- Draining that meets something that cannot be answered fails, however many messages more may be
read. -/
theorem drainFrom_of_meets (h : link.Dwindles) (hm : m.Unanswerable)
    (hmeets : link.Meets p (link.DrainReads start timeout) (fun _ => False) m s) {reads : Nat}
    (hreads : link.unread s < reads) (handled : Nat) :
    (Exchange.drainFrom link p start timeout reads handled s).1 = .error .wrongType := by
  refine hmeets.comesTo
    (fun n s => ∀ handled, (Exchange.drainFrom link p start timeout n handled s).1 = _) h
    (fun hread => ⟨_, hread.2⟩) (fun {s t} n hread handled => ?_)
    (fun n hread _ hattend hrest handled => ?_) hreads handled
  · obtain ⟨u, hattend⟩ := attend_of_unanswerable hm link p t
    rw [drainFrom_of_message hread, hattend]
  · rw [drainFrom_of_message hread, hattend]
    exact hrest _

/-- **Draining fails over what is asked** exactly if it meets something that cannot be answered. -/
theorem drainFrom_wrongType_iff (hdwindles : link.Dwindles)
    (h : link.FailsBy I (· ≠ .wrongType)) (hs : I s) :
    (Exchange.drainFrom link p start timeout (link.unread s + 1) handled s).1 =
        .error .wrongType ↔
      ∃ m, m.Unanswerable ∧
        link.Meets p (link.DrainReads start timeout) (fun _ => False) m s :=
  ⟨meets_of_drainFrom h hs,
    fun ⟨_, hm, hmeets⟩ => drainFrom_of_meets hdwindles hm hmeets (Nat.lt_succ_self _) handled⟩

/-! ### Exchanges -/

/-- A request meets a message: it is sent, with a time that a clock counts, and the message is met
while its response is waited for. -/
def Exchange.RequestMeets (x : Exchange τ) (link : Link σ τ) (method : String) (params : Json)
    (timeout : Option τ) (m : Message) (s : σ) : Prop :=
  Timeline.fits (timeout.getD x.requestTimeout) = true ∧
    ∃ u, (link.send (.request (.number (x.lastId + 1)) method params)).apply
        (link.note ⟨.debug, "Sending request " ++ toString (x.lastId + 1) ++ ": " ++ method⟩ s) =
          (.ok (), u) ∧
      link.Meets x.preferences
        (Bounds.Reads ⟨link.now u, timeout.getD x.requestTimeout, x.readTimeout⟩ link)
        (·.respondsTo (.number (x.lastId + 1)) = true) m u

/-- A drain meets a message: its time is one that a clock counts, and the message is met in it. -/
def Exchange.DrainMeets (x : Exchange τ) (link : Link σ τ) (timeout : τ) (m : Message) (s : σ) :
    Prop :=
  Timeline.fits timeout = true ∧ link.Meets x.preferences
    (link.DrainReads (link.now s) timeout) (fun _ => False) m s

omit [Timeline τ] in
theorem Ending.outcome_eq_wrongType {ending : Ending τ} {method : String}
    {timeout readTimeout : τ} :
    ending.outcome method timeout readTimeout = .error .wrongType ↔
      ending = .failed .wrongType := by
  cases ending with
  | failed fault => simp [outcome]
  | answered result => exact ⟨nofun, nofun⟩
  | refused error => exact ⟨nofun, nofun⟩
  | expired => exact ⟨nofun, nofun⟩
  | stalled => exact ⟨nofun, nofun⟩

/-- **A request fails over what is asked** exactly if it meets something that cannot be
answered. -/
theorem Exchange.request_wrongType_iff (hdwindles : link.Dwindles)
    (h : link.FailsBy I (· ≠ .wrongType)) (hs : I s) (x : Exchange τ) (method : String)
    (params : Json) (timeout : Option τ) :
    (x.request link method params timeout s).1 = .error .wrongType ↔
      ∃ m, m.Unanswerable ∧ x.RequestMeets link method params timeout m s := by
  have hsent := h.send (.request (.number (x.lastId + 1)) method params) _
    (h.note ⟨.debug, "Sending request " ++ toString (x.lastId + 1) ++ ": " ++ method⟩ s hs)
  rw [Exchange.request]
  simp only [Exchange.RequestMeets, Ending.outcome_eq_wrongType]
  generalize (link.send (.request (.number (x.lastId + 1)) method params)).apply _ = sent at hsent ⊢
  obtain ⟨fault | ⟨⟩, u⟩ := sent
  · have hfault : fault ≠ .wrongType := hsent.2
    simp [hfault]
  · dsimp only
    split
    · next hfits =>
      rw [awaitResponse_wrongType_iff hdwindles h hsent]
      simp [hfits]
    · next hfits => simp [hfits]

/-- **A drain fails over what is asked** exactly if it meets something that cannot be answered. -/
theorem Exchange.drain_wrongType_iff (hdwindles : link.Dwindles)
    (h : link.FailsBy I (· ≠ .wrongType)) (hs : I s) (x : Exchange τ) (timeout : τ) :
    (x.drain link timeout s).1 = .error .wrongType ↔
      ∃ m, m.Unanswerable ∧ x.DrainMeets link timeout m s := by
  rw [Exchange.drain]
  simp only [Exchange.DrainMeets]
  split
  · next hfits =>
    rw [drainFrom_wrongType_iff hdwindles h hs]
    simp [hfits]
  · next hfits => simp [hfits]

/-! ### Scripts -/

/-- A script with no fault that is like that of making a reply. -/
structure Script.Faithful (s : Script τ) : Prop where
  items : ∀ item ∈ s.items, item.event ≠ .error .wrongType
  sendFaults : some .wrongType ∉ s.sendFaults

theorem Script.failsBy :
    (Script.link : Link (Script τ) τ).FailsBy Script.Faithful (· ≠ .wrongType) where
  note _ _ hs := ⟨hs.items, hs.sendFaults⟩
  send m s hs := by
    obtain ⟨hitems, hfaults⟩ := hs
    simp only [Script.link, Script.send, Action.apply_ofFun]
    rcases heq : s.sendFaults with _ | ⟨_ | fault, rest⟩
    · exact ⟨hitems, heq ▸ hfaults⟩
    · rw [heq, List.mem_cons, not_or] at hfaults
      exact ⟨hitems, hfaults.2⟩
    · rw [heq, List.mem_cons, not_or] at hfaults
      exact ⟨⟨hitems, hfaults.2⟩, fun hwrong => hfaults.1 (congrArg some hwrong.symm)⟩
  receive timeout s hs := by
    obtain ⟨hitems, hfaults⟩ := hs
    simp only [Script.link, Script.receive, Action.apply_ofFun]
    rcases heq : s.items with _ | ⟨item, rest⟩
    · exact ⟨⟨by simp, hfaults⟩, fun hwrong => by cases hwrong⟩
    · rw [heq, List.forall_mem_cons] at hitems
      obtain ⟨hitem, hrest⟩ := hitems
      dsimp only
      cases hevent : item.event with
      | error fault => exact ⟨⟨hrest, hfaults⟩, fun hwrong => hitem (by rw [hevent, hwrong])⟩
      | ok m => exact ⟨hrest, hfaults⟩

/-! ### What is answered -/

/-- **Every request is answered but those that cannot be**: with one response, which has the
request's identifier and no error; making a reply to one of the others fails.  Nothing else gets a
reply.  Over a connection that does not fail in that way itself, a request and a drain fail so
exactly if they meet one of the others. -/
theorem answers_requests_iff (hdwindles : link.Dwindles) (h : link.FailsBy I (· ≠ .wrongType))
    (hs : I s) (x : Exchange τ) :
    (∀ p id method params,
      ((∃ result, replyTo (τ := τ) p (.request id method params) =
          .ok (some (.response (some id) result none))) ↔
        ¬ (Message.request id method params).Unanswerable) ∧
      ((Message.request id method params).Unanswerable →
        replyTo (τ := τ) p (.request id method params) = .error .wrongType)) ∧
    (∀ p method params, replyTo (τ := τ) p (.notification method params) = .ok none) ∧
    (∀ p id result error, replyTo (τ := τ) p (.response id result error) = .ok none) ∧
    (∀ method params timeout, (x.request link method params timeout s).1 = .error .wrongType ↔
      ∃ m, m.Unanswerable ∧ x.RequestMeets link method params timeout m s) ∧
    ∀ timeout, (x.drain link timeout s).1 = .error .wrongType ↔
      ∃ m, m.Unanswerable ∧ x.DrainMeets link timeout m s :=
  ⟨fun p id method params =>
      ⟨replyTo_eq_response_iff p id method params, fun hm => replyTo_of_unanswerable hm p⟩,
    fun _ _ _ => rfl, fun _ _ _ _ => rfl,
    x.request_wrongType_iff hdwindles h hs, x.drain_wrongType_iff hdwindles h hs⟩

/-- A server that asks for settings with a number in the place of the items, and answers after
that. -/
def misaskingScript : Script ℚ :=
  { items :=
      [⟨1, .ok (.request (.number 7) Method.configuration (.object [("items", .int 5)]))⟩,
        ⟨1, .ok (.response (some (.number 1)) (.string "found") none)⟩]
    clock := 0 }

theorem answers_requests_iff_misaskingScript :
    (Script.link : Link (Script ℚ) ℚ).Dwindles ∧
    (Script.link : Link (Script ℚ) ℚ).FailsBy Script.Faithful (· ≠ .wrongType) ∧
    misaskingScript.Faithful ∧
    let x : Exchange ℚ := { requestTimeout := 5, readTimeout := 3, preferences := .standard }
    let m : Message := .request (.number 7) Method.configuration (.object [("items", .int 5)])
    m.Unanswerable ∧ replyTo (τ := ℚ) .standard m = .error .wrongType ∧
      (x.request Script.link "find" .null none misaskingScript).1 = .error .wrongType ∧
      (x.drain Script.link 5 misaskingScript).1 = .error .wrongType := by
  have hfaithful : misaskingScript.Faithful := ⟨by simp [misaskingScript], nofun⟩
  obtain ⟨hanswers, -, -, hrequest, hdrain⟩ :=
    answers_requests_iff Script.dwindles Script.failsBy hfaithful
      { requestTimeout := 5, readTimeout := 3, preferences := .standard }
  refine ⟨Script.dwindles, Script.failsBy, hfaithful, ?_⟩
  intro x m
  have hm : m.Unanswerable := ⟨rfl, .int 5, ⟨_, rfl, rfl, rfl⟩, nofun, nofun, nofun⟩
  refine ⟨hm, (hanswers _ _ _ _).2 hm, ?_, ?_⟩
  · exact (hrequest "find" .null none).mpr ⟨m, hm, rfl, _, rfl, .now ⟨by decide +kernel, rfl⟩⟩
  · exact (hdrain 5).mpr ⟨m, hm, rfl, .now ⟨by decide +kernel, rfl⟩⟩

end ClassOrder
