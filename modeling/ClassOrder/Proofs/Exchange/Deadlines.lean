import ClassOrder.Proofs.Channel.Sending
import ClassOrder.Proofs.Exchange.Waiting
import ClassOrder.Proofs.Framing.Deadline

/-!
# One budget for every wait

A request shares its time among all the reads that it makes: each is given what is left, and no
more than one read may take.  So however many messages come in between, and in however many pieces,
a request ends when its time is over at the latest, and so does a drain.

## Main definitions

* `Link.Punctual` — a connection whose clock moves in reading alone, and keeps to the time given.
* `Wait`, `Link.watched` — the waits of a connection, and the connection that keeps a list of them.
* `Bounds.Allows`, `Bounds.InTime` — waits within the bounds of a request.

## Main results

* `request_watched` — watching a connection changes nothing else.
* `Waits.inTime`, `drainFrom_deadline` — **waiting and draining keep to their time.**
* `deadlines_hold` — the same of a pipe, from the request down to the bytes.
-/

namespace ClassOrder

variable {σ τ : Type}

/-! ### Waits -/

/-- A wait for a message: since when, and for how long at most. -/
structure Wait (τ : Type) where
  /-- When it began. -/
  since : τ
  /-- How long it may last. -/
  time : τ

/-- A connection that keeps a list of its waits. -/
def Link.watched (link : Link σ τ) : Link (σ × List (Wait τ)) τ where
  send m := .ofFun fun s =>
    let (r, t) := (link.send m).apply s.1
    (r, t, s.2)
  receive time := .ofFun fun s =>
    let (r, t) := (link.receive time).apply s.1
    (r, t, s.2 ++ [⟨link.now s.1, time⟩])
  now s := link.now s.1
  unread s := link.unread s.1
  note r s := (link.note r s.1, s.2)

section

variable (link : Link σ τ) (p : Preferences)

theorem send_watched (m : Message) (s : σ) (ws : List (Wait τ)) :
    (link.watched.send m).apply (s, ws) =
      (((link.send m).apply s).1, ((link.send m).apply s).2, ws) := rfl

theorem now_watched (s : σ) (ws : List (Wait τ)) : link.watched.now (s, ws) = link.now s := rfl

theorem note_watched (r : Record) (s : σ) (ws : List (Wait τ)) :
    link.watched.note r (s, ws) = (link.note r s, ws) := rfl

theorem receive_watched (time : τ) (s : σ) (ws : List (Wait τ)) :
    (link.watched.receive time).apply (s, ws) =
      (((link.receive time).apply s).1, ((link.receive time).apply s).2,
        ws ++ [⟨link.now s, time⟩]) := rfl

theorem answer_watched (m : Message) (s : σ) (ws : List (Wait τ)) :
    (answer link.watched p m).apply (s, ws) =
      (((answer link p m).apply s).1, ((answer link p m).apply s).2, ws) := by
  simp only [answer, Action.apply_ofFun]
  cases replyNote? m <;> cases (replyTo p m : Except (Fault τ) (Option Message)) with
  | error fault => rfl
  | ok reply => cases reply <;> rfl

variable [Timeline τ]

/-- Watching changes nothing: by induction on the messages that may still be read. -/
theorem awaitResponse_watched (b : Bounds τ) (id : MessageId) (reads : Nat) (s : σ)
    (ws : List (Wait τ)) :
    awaitResponse link p b id reads s = ((awaitResponse link.watched p b id reads (s, ws)).1,
        (awaitResponse link.watched p b id reads (s, ws)).2.1) := by
  induction reads generalizing s ws with
  | zero => rfl
  | succ reads ih =>
    rw [awaitResponse, awaitResponse, now_watched]
    split
    · rfl
    · rw [receive_watched]
      rcases (link.receive (earlier b.readTimeout (b.timeout - (link.now s - b.start)))).apply s
        with ⟨fault | m, t⟩
      · dsimp only
        split <;> rfl
      · dsimp only
        cases m with
        | response rid result error =>
          dsimp only
          split
          · rfl
          · exact ih _ _
        | request rid method params =>
          dsimp only
          rw [answer_watched]
          rcases (answer link p (.request rid method params)).apply t with ⟨fault | ⟨⟩, u⟩
          · rfl
          · exact ih _ _
        | notification method params =>
          dsimp only
          rw [answer_watched]
          rcases (answer link p (.notification method params)).apply t with ⟨fault | ⟨⟩, u⟩
          · rfl
          · exact ih _ _

/-- **Watching a connection changes nothing else.** -/
theorem request_watched (method : String) (params : Json) (timeout : Option τ) (x : Exchange τ)
    (s : σ) (ws : List (Wait τ)) :
    let done := x.request link.watched method params timeout (s, ws)
    x.request link method params timeout s = (done.1, done.2.1, done.2.2.1) := by
  dsimp only [Exchange.request]
  rw [note_watched, send_watched]
  rcases (link.send (.request (.number (x.lastId + 1)) method params)).apply _ with ⟨fault | ⟨⟩, t⟩
  · rfl
  · dsimp only
    split
    · rw [awaitResponse_watched link x.preferences _ _ _ t ws]
      rfl
    · rfl

end

/-! ### Keeping to the time -/

/-- While `I` holds, the clock moves in reading alone, and a read ends when the time given is over
at the latest, at once if none is given. -/
structure Link.Punctual (link : Link σ ℚ) (I : σ → Prop) : Prop where
  note : ∀ r s, I s → I (link.note r s) ∧ link.now (link.note r s) = link.now s
  send : ∀ m s, I s →
    I ((link.send m).apply s).2 ∧ link.now ((link.send m).apply s).2 = link.now s
  receive : ∀ time s, I s → I ((link.receive time).apply s).2 ∧
    link.now ((link.receive time).apply s).2 ≤ max (link.now s) (link.now s + time)

theorem earlier_eq_min (a b : ℚ) : earlier a b = min a b := by
  unfold earlier
  split
  · next h => exact (min_eq_right_of_lt h).symm
  · next h => exact (min_eq_left (not_lt.mp h)).symm

/-- What is left of the time at a given moment. -/
def Bounds.left (b : Bounds ℚ) (now : ℚ) : ℚ := b.timeout - (now - b.start)

/-- A wait within the bounds: something is left of the time when it begins, and it is given that or
the time of one read, whichever is smaller. -/
structure Bounds.Allows (b : Bounds ℚ) (w : Wait ℚ) : Prop where
  left_pos : 0 < b.left w.since
  time_eq : w.time = min b.readTimeout (b.left w.since)

section

variable {link : Link σ ℚ} {I : σ → Prop}

/-- A reply takes no time. -/
theorem Link.Punctual.answer (h : link.Punctual I) (p : Preferences) (m : Message) {s : σ}
    (hs : I s) : I ((ClassOrder.answer link p m).apply s).2 ∧
      link.now ((ClassOrder.answer link p m).apply s).2 = link.now s := by
  have hkeeps : (ClassOrder.answer link p m).Keeps fun t => I t ∧ link.now t = link.now s :=
    answer_keeps (fun r t ht => ⟨(h.note r t ht.1).1, (h.note r t ht.1).2.trans ht.2⟩)
      (fun rid result => Action.Keeps.of_apply fun t ht =>
        ⟨(h.send _ t ht.1).1, (h.send _ t ht.1).2.trans ht.2⟩) p m
  exact hkeeps.apply ⟨hs, rfl⟩

theorem Link.Punctual.attend (h : link.Punctual I) {p : Preferences} {m : Message}
    {s t : σ × List (Wait ℚ)} {r : Except (Fault ℚ) Unit} (hs : I s.1)
    (hattend : (ClassOrder.attend link.watched p m).apply s = (r, t)) :
    I t.1 ∧ link.now t.1 = link.now s.1 ∧ t.2 = s.2 := by
  have hkeeps : (ClassOrder.attend link.watched p m).Keeps
      fun u => I u.1 ∧ link.now u.1 = link.now s.1 ∧ u.2 = s.2 :=
    attend_keeps
      (fun r u ⟨hu, hnow, hws⟩ => ⟨(h.note r _ hu).1, (h.note r _ hu).2.trans hnow, hws⟩)
      (fun rid result => Action.Keeps.of_apply fun u ⟨hu, hnow, hws⟩ =>
        ⟨(h.send _ _ hu).1, (h.send _ _ hu).2.trans hnow, hws⟩) p m
  have ht := hkeeps.apply ⟨hs, rfl, rfl⟩
  rwa [hattend] at ht

/-- Everything is still in time: the clock, and all waits up to now. -/
def Bounds.InTime (b : Bounds ℚ) (link : Link σ ℚ) (s : σ × List (Wait ℚ)) : Prop :=
  link.now s.1 ≤ b.start + b.timeout ∧ ∀ w ∈ s.2, b.Allows w

/-- A read that begins in time ends in time. -/
theorem Bounds.InTime.read (h : link.Punctual I) {b : Bounds ℚ} {s t : σ × List (Wait ℚ)}
    {item : Except (Fault ℚ) Message} (hs : I s.1) (hin : b.InTime link s)
    (hread : b.Reads link.watched s item t) : I t.1 ∧ b.InTime link t := by
  obtain ⟨hleft, hgot⟩ := hread
  rw [now_watched] at hleft hgot
  rw [not_le] at hleft
  generalize htime : earlier b.readTimeout (b.timeout - (link.now s.1 - b.start)) = time at hgot
  have hmin : time = min b.readTimeout (b.left (link.now s.1)) := by
    rw [← htime, earlier_eq_min, Bounds.left]
  have hend : link.now s.1 + time ≤ b.start + b.timeout := by
    have hle : time ≤ b.left (link.now s.1) := hmin ▸ min_le_right _ _
    rw [Bounds.left] at hle
    linarith
  rw [receive_watched] at hgot
  obtain ⟨-, rfl⟩ := Prod.mk.inj hgot
  obtain ⟨htI, htnow⟩ := h.receive time s.1 hs
  refine ⟨htI, htnow.trans (max_le hin.1 hend), fun w hw => ?_⟩
  rcases List.mem_append.mp hw with hw | hw
  · exact hin.2 w hw
  · rw [List.mem_singleton.mp hw]
    exact ⟨hleft, hmin⟩

/-- **Waiting for a response keeps to its time**: the time is not over before any read, every read
ends by then, and attending to a message takes none. -/
theorem Waits.inTime (h : link.Punctual I) {p : Preferences} {b : Bounds ℚ} {id : MessageId}
    {s t : σ × List (Wait ℚ)} {ending : Ending ℚ} (hwaits : Waits link.watched p b id s ending t)
    (hs : I s.1) (hin : b.InTime link s) : b.InTime link t := by
  induction hwaits with
  | stopped s => exact hin
  | late hread hkind hending => exact (hin.read h hs hread).2
  | lost hread hkind => exact (hin.read h hs hread).2
  | heard hread => exact (hin.read h hs hread).2
  | stuck hread hm hattend =>
    obtain ⟨htI, hnow, hws⟩ := hin.read h hs hread
    obtain ⟨-, hsame, hkept⟩ := h.attend htI hattend
    exact ⟨hsame.trans_le hnow, hkept ▸ hws⟩
  | further hread hm hattend _ ih =>
    obtain ⟨htI, hnow, hws⟩ := hin.read h hs hread
    obtain ⟨huI, hsame, hkept⟩ := h.attend htI hattend
    exact ih huI ⟨hsame.trans_le hnow, hkept ▸ hws⟩

/-- A request keeps to its time, which begins when it has been sent. -/
theorem request_deadline (h : link.Punctual I) (method : String) (params : Json)
    (timeout : Option ℚ) (x : Exchange ℚ) {s : σ} (hs : I s)
    (htimeout : 0 ≤ timeout.getD x.requestTimeout) :
    let b : Bounds ℚ := ⟨link.now s, timeout.getD x.requestTimeout, x.readTimeout⟩
    let done := x.request link.watched method params timeout (s, [])
    b.InTime link done.2.2 := by
  let note : Record :=
    ⟨.debug, "Sending request " ++ toString (x.lastId + 1) ++ ": " ++ method⟩
  let m : Message := .request (.number (x.lastId + 1)) method params
  obtain ⟨hnoteI, hnote⟩ := h.note note s hs
  obtain ⟨hsentI, hsent⟩ := h.send m (link.note note s) hnoteI
  replace hsent := hsent.trans hnote
  have hstart : link.now s ≤ link.now s + timeout.getD x.requestTimeout :=
    le_add_of_nonneg_right htimeout
  dsimp only [Exchange.request]
  rw [note_watched, send_watched]
  rcases hgot : (link.send m).apply (link.note note s) with ⟨fault | ⟨⟩, t⟩
  · rw [hgot] at hsent
    exact ⟨hsent.trans_le hstart, nofun⟩
  · rw [hgot] at hsentI hsent
    dsimp only at hsentI hsent ⊢
    rw [if_pos (Timeline.fits_rat _), now_watched, hsent]
    exact (awaitResponse_waits ..).inTime h hsentI ⟨hsent.trans_le hstart, nofun⟩

/-- **Draining keeps to its time**, and runs out of it without a fault: only sending a reply can
fail like that. -/
theorem drainFrom_deadline (h : link.Punctual I) (p : Preferences) (start timeout : ℚ)
    (reads handled : Nat) {s : σ} (hs : I s) (hnow : link.now s ≤ start + timeout) :
    let done := Exchange.drainFrom link p start timeout reads handled s
    link.now done.2 ≤ start + timeout ∧
      ∀ fault, done.1 = .error fault → fault.kind = .timeout →
        ∃ m t, I t ∧ ((link.send m).apply t).1 = .error fault := by
  -- what is left of the time only shrinks, and each read gets just what is left
  induction reads generalizing handled s with
  | zero => exact ⟨hnow, fun _ hfault => by cases hfault⟩
  | succ reads ih =>
    rw [Exchange.drainFrom]
    split
    · exact ⟨hnow, fun _ hfault => by cases hfault⟩
    · next hleft =>
      rw [not_le] at hleft
      generalize htime : timeout - (link.now s - start) = time at hleft
      have hend : link.now s + time ≤ start + timeout := by linarith
      obtain ⟨htI, htnow⟩ := h.receive time s hs
      replace htnow := htnow.trans (max_le hnow hend)
      rcases hgot : (link.receive time).apply s with ⟨fault | m, t⟩
      · rw [hgot] at htnow
        dsimp only
        split
        · exact ⟨htnow, fun _ hfault => by cases hfault⟩
        · next hkind =>
          refine ⟨htnow, fun fault' heq hkind' => absurd hkind' ?_⟩
          cases heq
          exact hkind
      · rw [hgot] at htI htnow
        dsimp only at htI htnow ⊢
        have hanswered := h.answer p m htI
        split
        · next heq => cases heq
        · next rid result error u heq =>
          cases heq
          obtain ⟨huI, hunow⟩ := h.note (discardNote rid) t htI
          exact ih _ huI (hunow.trans_le htnow)
        · next m' u hm heq =>
          cases heq
          rcases hreply : (answer link p m).apply t with ⟨fault | ⟨⟩, u⟩
          · rw [hreply] at hanswered
            refine ⟨hanswered.2.trans_le htnow, fun fault' heq hkind => ?_⟩
            cases heq
            -- a reply that fails over time can only have failed to be sent
            rcases answer_eq_error hreply with rfl | ⟨reply, v, hv, hsend⟩
            · cases hkind
            · refine ⟨reply, v, ?_, congrArg Prod.fst hsend⟩
              rcases hv with rfl | ⟨r, rfl⟩
              · exact htI
              · exact (h.note r t htI).1
          · rw [hreply] at hanswered
            exact ih _ hanswered.1 (hanswered.2.trans_le htnow)

end

/-! ### Pipes -/

namespace Line

/-- A line on a pipe, whose outlet has given faults. -/
structure OnPipe (write flush : Option (Fault ℚ)) (l : Line ℚ) : Prop where
  isPipe : l.IsPipe
  writeFault : l.channel.outlet.writeFault = write
  flushFault : l.channel.outlet.flushFault = flush

theorem timed_receive (time : Option ℚ) (l : Line ℚ) :
    ((receive time).apply l).2.channel.intake.inlet.timed = l.channel.intake.inlet.timed := by
  simp only [receive, Action.apply_ofFun, Channel.receive, Intake.receive]
  split <;> rfl

/-- A line on a pipe keeps to the times given. -/
theorem punctual (write flush : Option (Fault ℚ)) :
    (link : Link (Line ℚ) ℚ).Punctual (OnPipe write flush) where
  note _ _ h := ⟨⟨h.isPipe, h.writeFault, h.flushFault⟩, rfl⟩
  send m l h := by
    obtain ⟨hwrite, hflush⟩ := l.channel.outlet.faults_write m.frame
    exact ⟨⟨h.isPipe, hwrite.trans h.writeFault, hflush.trans h.flushFault⟩, rfl⟩
  receive time l h := by
    have hpipe := (timed_receive (some time) l).trans h.isPipe
    exact ⟨⟨hpipe, h.writeFault, h.flushFault⟩, (receive_inTime h.isPipe time).2.1⟩

end Line

/-- **Deadlines hold, from the request down to the bytes.**  Let a line be on a pipe, with anything
in line, arriving at any times, and let `t` be a positive time.  Receiving for that time ends by
then, and reports that its time is over at that very moment alone.  A request with that time ends
by then, counted from when it was sent, however many messages and parts of messages arrive
meanwhile; whenever it waits, something is left of its time, and the wait gets that, or the time of
one read if that is smaller.  A drain for that time ends by then and does not report that its time
is over; it can only pass on a fault of that kind that the outlet has. -/
theorem deadlines_hold (l : Line ℚ) (hpipe : l.IsPipe) (x : Exchange ℚ) (t : ℚ) (ht : 0 < t) :
    (let done := (Line.receive (some t)).apply l
     done.2.clock ≤ l.clock + t ∧
       ∀ fault, done.1 = .error fault → fault.kind = .timeout → done.2.clock = l.clock + t) ∧
    (∀ method params timeout, timeout.getD x.requestTimeout = t →
      (x.request Line.link method params timeout l).2.2.clock ≤ l.clock + t ∧
        ∀ w ∈ (x.request Line.link.watched method params timeout (l, [])).2.2.2,
          0 < t - (w.since - l.clock) ∧
            w.time = min x.readTimeout (t - (w.since - l.clock)) ∧
            (0 < x.readTimeout → 0 < w.time)) ∧
    (let done := x.drain Line.link t l
     done.2.clock ≤ l.clock + t ∧
       ∀ fault, done.1 = .error fault → fault.kind = .timeout →
         l.channel.outlet.writeFault = some fault ∨ l.channel.outlet.flushFault = some fault) := by
  have hpunctual := Line.punctual l.channel.outlet.writeFault l.channel.outlet.flushFault
  have hl : l.OnPipe l.channel.outlet.writeFault l.channel.outlet.flushFault := ⟨hpipe, rfl, rfl⟩
  have hend : l.clock ≤ l.clock + t := le_add_of_nonneg_right ht.le
  refine ⟨?_, ?_, ?_⟩
  · obtain ⟨-, hle, hover⟩ := Line.receive_inTime hpipe t
    rw [max_eq_right hend] at hle
    refine ⟨hle, fun fault heq hkind => le_antisymm hle (hover ?_)⟩
    rw [heq, gaveUp, decide_eq_true_eq]
    exact hkind
  · rintro method params timeout rfl
    obtain ⟨hle, hwaits⟩ := request_deadline hpunctual method params timeout x hl ht.le
    -- the waits are watched beside the same request
    have hsame := request_watched Line.link method params timeout x l []
    refine ⟨?_, fun w hw => ?_⟩
    · rw [hsame]
      exact hle
    · obtain ⟨hleft, htime⟩ := hwaits w hw
      exact ⟨hleft, htime, fun hread => htime ▸ lt_min hread hleft⟩
  · -- no read of a drain reports that its time is over, so the fault comes from the outlet
    obtain ⟨hle, hfaults⟩ := drainFrom_deadline hpunctual x.preferences l.clock t
      (l.channel.intake.unread + 1) 0 hl hend
    refine ⟨hle, fun fault heq hkind => ?_⟩
    obtain ⟨m, u, hu, hsend⟩ := hfaults fault heq hkind
    rcases Channel.send_eq_error hsend with hlost | hown
    · rw [hlost] at hkind
      cases hkind
    · rwa [hu.writeFault, hu.flushFault] at hown

/-- A line on which the other side asks, tells, answers what nobody waits for, in two parts, and
begins another message. -/
def chattyLine : Line ℚ :=
  let asks : Message := .request (.number 7) "ask" .null
  let tells : Message := .notification "tell" .null
  let stale : Message := .response (some (.number 99)) .null none
  { channel :=
      { intake :=
          { inlet :=
              { timed := true
                pending :=
                  [⟨1, .data asks.frame⟩, ⟨3 / 2, .data tells.frame⟩,
                    ⟨2, .data (stale.frame.take 10)⟩, ⟨3, .data (stale.frame.drop 10)⟩,
                    ⟨4, .data (asks.frame.take 30)⟩]
                latest := 4
                delay := 0 } }
        readTimeout := 3 }
    clock := 0 }

/-- An exchange that waits five seconds for a response and three seconds for a message. -/
def patientExchange : Exchange ℚ :=
  { requestTimeout := 5, readTimeout := 3, preferences := .standard }

theorem deadlines_hold_chattyLine :
    chattyLine.IsPipe ∧ (0 : ℚ) < 5 ∧
      let done := patientExchange.request Line.link.watched "find" .null none (chattyLine, [])
      done.2.2.2.map (fun w => (w.since, w.time)) = [(0, 3), (1, 3), (3 / 2, 3), (3, 2)] ∧
        done.2.2.1.clock = 5 ∧ done.2.2.1.clock ≤ chattyLine.clock + 5 ∧
        ∀ w ∈ done.2.2.2, 0 < w.time := by
  have ht : (0 : ℚ) < 5 := by norm_num
  obtain ⟨-, hrequest, -⟩ := deadlines_hold chattyLine rfl patientExchange 5 ht
  obtain ⟨hle, hwaits⟩ := hrequest "find" .null none rfl
  rw [request_watched Line.link "find" .null none patientExchange chattyLine []] at hle
  refine ⟨rfl, ht, by decide +kernel, by decide +kernel, hle, fun w hw => ?_⟩
  exact (hwaits w hw).2.2 (by norm_num [patientExchange])

end ClassOrder
