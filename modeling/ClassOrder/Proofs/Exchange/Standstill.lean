import ClassOrder.Proofs.Exchange.Deadlines
import ClassOrder.Proofs.Exchange.Enough
import ClassOrder.Proofs.Framing.InMemory
import ClassOrder.Proofs.Framing.Recovery
import ClassOrder.Proofs.Framing.Series

/-!
# Waiting while time stands still

Nothing but the time bounds how long a request waits and how long a drain lasts, and on a stream in
memory no time goes by.  They end all the same.  Every message that is received is a frame taken off
the front of the stream, whatever is done about it then, so there are at most as many of them as
there are frames, and the call to receive after the last one fails.

## Main definitions

* `framesIn` — the number of frames at the start of a stream.
* `Line.frames` — the frames that a line has still to read.
* `Link.allowing` — a connection over which waiting may take another number of rounds.
* `Line.InMemory` — a line on a stream in memory.

## Main results

* `request_allowing`, `drain_allowing` — **any number of rounds that is large enough is as good as
  any other**, over every connection.
* `Line.receive_ok` — a message that is received is a frame off the front of the stream.
* `standstill_ends` — **on a stream in memory a request and a drain end**, after one more call to
  receive than there are frames at most.
-/

namespace ClassOrder

variable {σ τ : Type}

/-! ### Rounds and calls -/

/-- A connection over which waiting may take a given number of rounds, by the state in which it
begins. -/
def Link.allowing (link : Link σ τ) (rounds : σ → ℕ) : Link σ τ := { link with unread := rounds }

/-- Watching a connection leaves it one over which waiting ends. -/
theorem Link.Dwindles.watched {link : Link σ τ} (h : link.Dwindles) : link.watched.Dwindles where
  send m s := h.send m s.1
  note r s := h.note r s.1
  receive {time s m t} hread := by
    obtain ⟨hout, rfl⟩ := Prod.mk.inj hread
    exact h.receive (Prod.ext hout rfl)

section

variable [Timeline τ]

theorem awaitResponse_enough {link : Link σ τ} (h : link.Dwindles) (p : Preferences) (b : Bounds τ)
    (id : MessageId) {reads more : ℕ} {s : σ} (hreads : link.unread s < reads)
    (hmore : link.unread s < more) :
    awaitResponse link p b id reads s = awaitResponse link p b id more s := by
  simp only [← await_surroundings]
  exact await_enough (h.surroundings p) b id hreads hmore

theorem Exchange.drainFrom_enough {link : Link σ τ} (h : link.Dwindles) (p : Preferences)
    (start timeout : τ) (handled : ℕ) {reads more : ℕ} {s : σ} (hreads : link.unread s < reads)
    (hmore : link.unread s < more) :
    Exchange.drainFrom link p start timeout reads handled s =
      Exchange.drainFrom link p start timeout more handled s := by
  simp only [← drainFrom_surroundings]
  exact ClassOrder.drainFrom_enough (h.surroundings p) start timeout handled hreads hmore

variable (link : Link σ τ) (p : Preferences)

theorem awaitResponse_allowing (rounds : σ → ℕ) (b : Bounds τ) (id : MessageId) (reads : ℕ)
    (s : σ) :
    awaitResponse (link.allowing rounds) p b id reads s = awaitResponse link p b id reads s := by
  induction reads generalizing s with
  | zero => rfl
  | succ reads ih =>
    simp only [awaitResponse, ih]
    rfl

theorem drainFrom_allowing (rounds : σ → ℕ) (start timeout : τ) (reads handled : ℕ) (s : σ) :
    Exchange.drainFrom (link.allowing rounds) p start timeout reads handled s =
      Exchange.drainFrom link p start timeout reads handled s := by
  induction reads generalizing handled s with
  | zero => rfl
  | succ reads ih =>
    simp only [Exchange.drainFrom, ih]
    rfl

variable {link}

/-- **Any number of rounds that is large enough is as good as any other.** -/
theorem request_allowing (h : link.Dwindles) {rounds : σ → ℕ}
    (hrounds : ∀ s, link.unread s ≤ rounds s) (method : String) (params : Json)
    (timeout : Option τ) (x : Exchange τ) (s : σ) :
    x.request (link.allowing rounds) method params timeout s =
      x.request link method params timeout s := by
  have hwait (b : Bounds τ) (id : MessageId) (t : σ) :
      awaitResponse link x.preferences b id (rounds t + 1) t =
        awaitResponse link x.preferences b id (link.unread t + 1) t :=
    awaitResponse_enough h _ b id (Nat.lt_succ_of_le (hrounds t)) (Nat.lt_succ_self _)
  simp only [Exchange.request, awaitResponse_allowing]
  simp only [Link.allowing, hwait]

/-- **Any number of rounds that is large enough is as good as any other.** -/
theorem drain_allowing (h : link.Dwindles) {rounds : σ → ℕ}
    (hrounds : ∀ s, link.unread s ≤ rounds s) (timeout : τ) (x : Exchange τ) (s : σ) :
    x.drain (link.allowing rounds) timeout s = x.drain link timeout s := by
  have hdrain (start : τ) (t : σ) :
      Exchange.drainFrom link x.preferences start timeout (rounds t + 1) 0 t =
        Exchange.drainFrom link x.preferences start timeout (link.unread t + 1) 0 t :=
    Exchange.drainFrom_enough h _ start timeout 0 (Nat.lt_succ_of_le (hrounds t))
      (Nat.lt_succ_self _)
  simp only [Exchange.drain, drainFrom_allowing]
  simp only [Link.allowing, hdrain]

/-! ### Counting calls -/

variable (link) in
theorem drainFrom_watched (start timeout : τ) (reads handled : ℕ) (s : σ) (ws : List (Wait τ)) :
    Exchange.drainFrom link p start timeout reads handled s =
      ((Exchange.drainFrom link.watched p start timeout reads handled (s, ws)).1,
        (Exchange.drainFrom link.watched p start timeout reads handled (s, ws)).2.1) := by
  induction reads generalizing handled s ws with
  | zero => rfl
  | succ reads ih =>
    rw [Exchange.drainFrom, Exchange.drainFrom, now_watched]
    split
    · rfl
    · rw [receive_watched]
      rcases (link.receive (timeout - (link.now s - start))).apply s with ⟨fault | m, t⟩
      · dsimp only
        split <;> rfl
      · dsimp only
        cases m with
        | response rid result error => exact ih _ _ _
        | request rid method params =>
          dsimp only
          rw [answer_watched]
          rcases (answer link p (.request rid method params)).apply t with ⟨fault | ⟨⟩, u⟩
          · rfl
          · exact ih _ _ _
        | notification method params =>
          dsimp only
          rw [answer_watched]
          rcases (answer link p (.notification method params)).apply t with ⟨fault | ⟨⟩, u⟩
          · rfl
          · exact ih _ _ _

variable (link) in
/-- **Watching a connection changes nothing else.** -/
theorem drain_watched (timeout : τ) (x : Exchange τ) (s : σ) (ws : List (Wait τ)) :
    let done := x.drain link.watched timeout (s, ws)
    x.drain link timeout s = (done.1, done.2.1) := by
  dsimp only [Exchange.drain]
  split
  · rw [drainFrom_watched link x.preferences _ _ _ _ s ws]
    rfl
  · rfl

omit [Timeline τ] in
/-- One call to receive is one wait more, and a message that it gives leaves less to read. -/
theorem Link.Dwindles.calls_receive (h : link.Dwindles) {time : τ} {s t : σ × List (Wait τ)}
    {item : Except (Fault τ) Message} (hread : (link.watched.receive time).apply s = (item, t)) :
    t.2.length = s.2.length + 1 ∧ ∀ m, item = .ok m → link.unread t.1 < link.unread s.1 := by
  obtain ⟨hitem, rfl⟩ := Prod.mk.inj hread
  exact ⟨List.length_append, fun m hm => h.receive (Prod.ext (hitem.trans hm) rfl)⟩

omit [Timeline τ] in
/-- What is done about a message waits for nothing and brings nothing to read. -/
theorem Link.Dwindles.calls_attend (h : link.Dwindles) {m : Message} {s t : σ × List (Wait τ)}
    {r : Except (Fault τ) Unit} (hattend : (attend link.watched p m).apply s = (r, t)) :
    t.2.length = s.2.length ∧ link.unread t.1 ≤ link.unread s.1 := by
  have hkeeps : (attend link.watched p m).Keeps
      fun u => u.2.length = s.2.length ∧ link.unread u.1 ≤ link.unread s.1 :=
    attend_keeps (fun r u hu => ⟨hu.1, (h.note r u.1).trans hu.2⟩)
      (fun rid result => Action.Keeps.of_apply fun u hu => ⟨hu.1, (h.send _ u.1).trans hu.2⟩) p m
  have ht := hkeeps.apply ⟨rfl, Nat.le_refl _⟩
  rwa [hattend] at ht

/-- **Waiting calls for a message once more than there are messages at most**: each one that it
goes on after leaves less to read. -/
theorem Waits.calls_le (h : link.Dwindles) {b : Bounds τ} {id : MessageId}
    {s t : σ × List (Wait τ)} {ending : Ending τ} (hwaits : Waits link.watched p b id s ending t) :
    t.2.length ≤ s.2.length + link.unread s.1 + 1 := by
  induction hwaits with
  | stopped s => omega
  | late hread hkind hending => have := (h.calls_receive hread.2).1; omega
  | lost hread hkind => have := (h.calls_receive hread.2).1; omega
  | heard hread => have := (h.calls_receive hread.2).1; omega
  | stuck hread hm hattend =>
    have hcall := (h.calls_receive hread.2).1
    have hdone := (h.calls_attend p hattend).1
    omega
  | further hread hm hattend _ ih =>
    obtain ⟨hcall, hless⟩ := h.calls_receive hread.2
    have hdone := h.calls_attend p hattend
    have := hless _ rfl
    omega

theorem Exchange.calls_drainFrom_le (h : link.Dwindles) (start timeout : τ) (reads handled : ℕ)
    (s : σ × List (Wait τ)) :
    (Exchange.drainFrom link.watched p start timeout reads handled s).2.2.length ≤
      s.2.length + link.unread s.1 + 1 := by
  induction reads generalizing handled s with
  | zero => exact Nat.le_succ_of_le (Nat.le_add_right _ _)
  | succ reads ih =>
    rw [Exchange.drainFrom]
    split
    · exact Nat.le_succ_of_le (Nat.le_add_right _ _)
    · split
      · next heq =>
        have hcall := (h.calls_receive heq).1
        split <;> exact hcall.le.trans (by omega)
      · next rid result error t heq =>
        -- a message is one call and leaves less to read, which pays for the rest
        obtain ⟨hcall, hless⟩ := h.calls_receive heq
        have hrest := ih handled (link.watched.note (discardNote rid) t)
        have hdone := h.calls_attend p (m := .response rid result error) (s := t) rfl
        have := hless _ rfl
        exact hrest.trans (by omega)
      · next m t hm heq =>
        obtain ⟨hcall, hless⟩ := h.calls_receive heq
        have hless := hless _ rfl
        have hanswer := attend_of_ne_response link.watched p hm
        split
        · next heq' =>
          have hdone := h.calls_attend p (hanswer ▸ heq')
          dsimp only
          omega
        · next heq' =>
          have hdone := h.calls_attend p (hanswer ▸ heq')
          exact (ih _ _).trans (by omega)

/-- **A request calls for a message once more than there are messages at most.** -/
theorem calls_request_le (h : link.Dwindles) (method : String) (params : Json)
    (timeout : Option τ) (x : Exchange τ) (s : σ) :
    (x.request link.watched method params timeout (s, [])).2.2.2.length ≤ link.unread s + 1 := by
  let note : Record :=
    ⟨.debug, "Sending request " ++ toString (x.lastId + 1) ++ ": " ++ method⟩
  let m : Message := .request (.number (x.lastId + 1)) method params
  have hsent := (h.send m (link.note note s)).trans (h.note note s)
  dsimp only [Exchange.request]
  rw [note_watched, send_watched]
  rcases hgot : (link.send m).apply (link.note note s) with ⟨fault | ⟨⟩, t⟩
  · exact Nat.zero_le _
  · rw [hgot] at hsent
    dsimp only
    split
    · have hcalls := (awaitResponse_waits link.watched x.preferences
        ⟨link.watched.now (t, []), timeout.getD x.requestTimeout, x.readTimeout⟩
        (.number (x.lastId + 1)) (link.watched.unread (t, []) + 1) (t, [])).calls_le _ h
      simp only [List.length_nil, Nat.zero_add] at hcalls
      exact hcalls.trans (Nat.succ_le_succ hsent)
    · exact Nat.zero_le _

/-- **A drain calls for a message once more than there are messages at most.** -/
theorem calls_drain_le (h : link.Dwindles) (timeout : τ) (x : Exchange τ) (s : σ) :
    (x.drain link.watched timeout (s, [])).2.2.length ≤ link.unread s + 1 := by
  rw [Exchange.drain]
  split
  · simpa using Exchange.calls_drainFrom_le x.preferences h _ timeout _ 0 (s, [])
  · exact Nat.zero_le _

end

/-! ### Frames -/

/-- The number of frames at the start of a stream, one right after the other. -/
def framesIn (bytes : Bytes) : ℕ :=
  match h : scan bytes with
  | .whole _ rest => framesIn rest + 1
  | .faulty .. | .wanting _ => 0
termination_by bytes.length
decreasing_by exact length_lt_of_scan h

theorem framesIn_of_whole {bytes body rest : Bytes} (h : scan bytes = .whole body rest) :
    framesIn bytes = framesIn rest + 1 := by
  rw [framesIn]
  split
  · next heq =>
    rw [h] at heq
    cases heq
    rfl
  · next heq => rw [h] at heq; cases heq
  · next heq => rw [h] at heq; cases heq

theorem framesIn_of_wanting {bytes kept : Bytes} (h : scan bytes = .wanting kept) :
    framesIn bytes = 0 := by
  rw [framesIn]
  split
  · next heq => rw [h] at heq; cases heq
  · rfl
  · rfl

/-- The frames of a series are all of its frames. -/
theorem framesIn_seriesOf (frames : List WrittenFrame) (stray : ℕ) :
    framesIn (seriesOf frames stray) = frames.length := by
  induction frames with
  | nil => exact framesIn_of_wanting (scan_blanks stray)
  | cons f frames ih =>
    rw [seriesOf_cons, framesIn_of_whole (scan_frame f _), ih, List.length_cons]

theorem framesIn_le_length (bytes : Bytes) : framesIn bytes ≤ bytes.length := by
  fun_induction framesIn bytes with
  | case1 bytes body rest hscan ih => exact (Nat.succ_le_succ ih).trans (length_lt_of_scan hscan)
  | case2 => exact Nat.zero_le _
  | case3 => exact Nat.zero_le _

namespace Line

/-- The frames that a line has still to read. -/
def frames (l : Line τ) : ℕ := framesIn l.stream

/-- A line on a stream in memory. -/
def InMemory (l : Line τ) : Prop := l.channel.intake.inlet.InMemory

variable [Timeline τ]

/-- **A message that is received is a frame off the front of the stream.** -/
theorem receive_ok {time : Option τ} {l t : Line τ} {m : Message}
    (h : (receive time).apply l = (.ok m, t)) :
    ∃ body, scan l.stream = .whole body t.stream ∧ readBody body = .ok m := by
  simp only [receive, Channel.receive, Action.apply_ofFun] at h
  rcases hread : l.channel.intake.receive (time.getD l.channel.readTimeout) l.clock
    with ⟨r, intake, clock⟩
  rw [hread] at h
  cases h
  obtain ⟨gone, body, hpending, hscan, hbody⟩ := Intake.receive_consumes hread
  refine ⟨body, ?_, hbody⟩
  rw [stream, Intake.stream, hpending, List.flatMap_append, ← List.append_assoc]
  exact scan_append_of_whole hscan _

/-- Every message that is received leaves a frame less. -/
theorem dwindles_frames : ((link : Link (Line τ) τ).allowing frames).Dwindles where
  send _ _ := Nat.le_refl _
  note _ _ := Nat.le_refl _
  receive {time l m t} h := by
    obtain ⟨body, hscan, -⟩ := receive_ok h
    exact Nat.lt_of_succ_le (framesIn_of_whole hscan).ge

/-- On a stream in memory no time goes by. -/
theorem serves_inMemory (now : τ) :
    (link : Link (Line τ) τ).Serves fun l => l.InMemory ∧ l.clock = now where
  note _ _ h := h
  reply _ _ := Action.Keeps.of_apply fun _ h => h
  receive time := Action.Keeps.of_apply fun l h => by
    obtain ⟨hmemory, hclock⟩ := Intake.receive_inMemory h.1 time l.clock
    exact ⟨hmemory, hclock.trans h.2⟩

end Line

theorem Line.frames_le_unread (l : Line τ) : l.frames ≤ l.channel.intake.unread := by
  refine (framesIn_le_length l.stream).trans_eq ?_
  rw [Line.stream, Intake.stream, List.length_append, Intake.unread, Inlet.unread_eq]

/-! ### Standing still -/

variable [Timeline τ]

/-- **On a stream in memory, where no time goes by, a request and a drain end.**  A call to receive
takes a frame off the front of the stream or fails, after one read more than there are pieces at
most.  So a request and a drain make one such call more than there are frames at most, and they
come to the same however many more they are allowed. -/
theorem standstill_ends {l : Line τ} (h : l.InMemory) :
    (∀ time : Option τ,
      let done := (Line.receive time).apply l
      done.2.InMemory ∧ done.2.clock = l.clock ∧
      (∀ m, done.1 = .ok m →
        ∃ body, scan l.stream = .whole body done.2.stream ∧ readBody body = .ok m) ∧
      ∃ reads ≤ l.channel.intake.inlet.pending.length + 1,
        l.channel.intake.Filled (time.getD l.channel.readTimeout) l.clock reads
          (done.1, done.2.channel.intake, done.2.clock)) ∧
    (∀ (x : Exchange τ) (method : String) (params : Json) (timeout : Option τ),
      let done := x.request Line.link.watched method params timeout (l, [])
      x.request Line.link method params timeout l = (done.1, done.2.1, done.2.2.1) ∧
      done.2.2.1.InMemory ∧ done.2.2.1.clock = l.clock ∧ done.2.2.2.length ≤ l.frames + 1 ∧
      ∀ rounds : Line τ × List (Wait τ) → ℕ, (∀ s, s.1.frames ≤ rounds s) →
        x.request (Line.link.watched.allowing rounds) method params timeout (l, []) = done) ∧
    (∀ (x : Exchange τ) (timeout : τ),
      let done := x.drain Line.link.watched timeout (l, [])
      x.drain Line.link timeout l = (done.1, done.2.1) ∧
      done.2.1.InMemory ∧ done.2.1.clock = l.clock ∧ done.2.2.length ≤ l.frames + 1 ∧
      ∀ rounds : Line τ × List (Wait τ) → ℕ, (∀ s, s.1.frames ≤ rounds s) →
        x.drain (Line.link.watched.allowing rounds) timeout (l, []) = done) := by
  -- the frames are a measure of the calls, as the bytes are, and a smaller one
  have hserves := Line.serves_inMemory l.clock
  have hframes := Line.dwindles_frames (τ := τ)
  have hbytes (s : Line τ × List (Wait τ)) : s.1.frames ≤ Line.link.watched.unread s :=
    s.1.frames_le_unread
  refine ⟨fun time => ?_, fun x method params timeout => ?_, fun x timeout => ?_⟩
  · obtain ⟨hmemory, hclock⟩ :=
      Intake.receive_inMemory h (time.getD l.channel.readTimeout) l.clock
    exact ⟨hmemory, hclock, fun m hm => Line.receive_ok (Prod.ext hm rfl),
      l.channel.intake.receive_filled _ _⟩
  · have hsame (rounds : Line τ × List (Wait τ) → ℕ) (hrounds : ∀ s, s.1.frames ≤ rounds s) :=
      request_allowing hframes.watched hrounds method params timeout x (l, [])
    have hcalls := calls_request_le hframes method params timeout x l
    have hsend (id : MessageId) : (Line.link.send (.request id method params)).Keeps
        fun s : Line τ => s.InMemory ∧ s.clock = l.clock := Action.Keeps.of_apply fun _ hs => hs
    have hkept := x.request_keeps hserves hsend timeout ⟨h, rfl⟩
    have hwatched := request_watched Line.link method params timeout x l []
    rw [hwatched] at hkept
    rw [← hsame _ hbytes] at hcalls
    exact ⟨hwatched, hkept.1, hkept.2, hcalls,
      fun rounds hrounds => (hsame rounds hrounds).trans (hsame _ hbytes).symm⟩
  · have hsame (rounds : Line τ × List (Wait τ) → ℕ) (hrounds : ∀ s, s.1.frames ≤ rounds s) :=
      drain_allowing hframes.watched hrounds timeout x (l, [])
    have hcalls := calls_drain_le hframes timeout x l
    have hkept := x.drain_keeps hserves timeout ⟨h, rfl⟩
    have hwatched := drain_watched Line.link timeout x l []
    rw [hwatched] at hkept
    rw [← hsame _ hbytes] at hcalls
    exact ⟨hwatched, hkept.1, hkept.2, hcalls,
      fun rounds hrounds => (hsame rounds hrounds).trans (hsame _ hbytes).symm⟩

/-- A line with two frames in memory, neither of which holds a response. -/
def recordedLine : Line ℚ where
  channel := channelOn
    ⟨(Inlet.empty false).feed 0 ([seriesOf [notificationFrame, misleadingFrame] 1].map .data), []⟩
  clock := 0

/-- A request calls for a message three times at most, whatever its timeout. -/
theorem standstill_ends_recordedLine :
    recordedLine.InMemory ∧ ∀ (x : Exchange ℚ) (method : String) (params : Json)
      (timeout : Option ℚ),
      (x.request Line.link.watched method params timeout (recordedLine, [])).2.2.2.length ≤ 3 := by
  obtain ⟨hmemory, hbytes⟩ := Inlet.inMemory_feed (0 : ℚ)
    [seriesOf [notificationFrame, misleadingFrame] 1]
  have hframes : recordedLine.frames = 2 :=
    (congrArg framesIn (hbytes.trans (List.flatten_singleton))).trans (framesIn_seriesOf _ _)
  refine ⟨hmemory, fun x method params timeout => ?_⟩
  have hcalls := ((standstill_ends (l := recordedLine) hmemory).2.1 x method params timeout)
  exact hcalls.2.2.2.1.trans_eq (congrArg (· + 1) hframes)

end ClassOrder
