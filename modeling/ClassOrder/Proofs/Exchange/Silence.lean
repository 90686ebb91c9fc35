import ClassOrder.Proofs.Exchange.Deadlines
import ClassOrder.Proofs.Exchange.Rounds
import ClassOrder.Proofs.Framing.Starving

/-!
# What a stalled request says about the server

The time that one read is allowed holds for a whole message, however many pieces it comes in.  So a
request that stalls does not say that the server was silent: it says that no message was complete in
that time.  A server that goes on writing a long message is given up on in the middle of it.

## Main definitions

* `Line.Silent` — no byte comes in for a time.
* `Line.Starving` — for a time, too few bytes come in for a message.
* `Line.Lively` — waiting without a silence.

## Main results

* `Line.Lively.passes` — no silence goes by in a read that gives a message.
* `request_stalled_iff` — **when a request stalls, and when the server was silent then.**
-/

namespace ClassOrder

open ClassOrder.Action (Keeps)

namespace Line

/-- No byte in line comes in within `time` after `since`; one that comes in when the time is over
just does. -/
def Silent (l : Line ℚ) (since time : ℚ) : Prop :=
  ∀ piece ∈ l.channel.intake.inlet.pending, piece.bytes ≠ [] →
    ¬ (since < piece.time ∧ piece.time ≤ since + time)

/-- For `time` from now on, a reader of the line gets nothing but bytes, and too few for a
message. -/
structure Starving (l : Line ℚ) (time : ℚ) : Prop where
  isOpen : l.channel.intake.inlet.closed = false
  starves : Starves (l.clock + time) l.channel.intake.buffer l.channel.intake.inlet.pending

/-- A line has been read from the state `l` on, and since then no byte came in for `time` at no
time. -/
structure Lively (time : ℚ) (l t : Line ℚ) : Prop where
  isPipe : t.IsPipe
  outlet_faults : t.channel.outlet.writeFault = l.channel.outlet.writeFault ∧
    t.channel.outlet.flushFault = l.channel.outlet.flushFault
  pending : t.channel.intake.inlet.pending <:+ l.channel.intake.inlet.pending
  clock_le : l.clock ≤ t.clock
  not_silent : ∀ since, l.clock ≤ since → since < t.clock → ¬ l.Silent since time

/-! ### One read -/

/-- A closed line gives nothing up. -/
theorem gaveUp_of_closed {m : Manner} (hclosed : m.closed = true) {patience : Patience ℚ}
    {clock : ℚ} (hclock : clock < patience.deadline) (buffer : Bytes) (pending : List (Piece ℚ)) :
    gaveUp (receiveFrom m patience clock buffer pending).outcome = false := by
  have hread {clock : ℚ} {buffer kept : Bytes} : ¬ Unsettled m patience clock buffer kept :=
    fun hmore => by simp [hmore.isOpen] at hclosed
  refine Bool.eq_false_iff.mpr (receiveFrom_induction (P := fun clock _ _ r =>
    clock < patience.deadline → gaveUp r.outcome ≠ true) ?_ ?_ ?_ clock buffer pending hclock)
  · exact fun hsettled hbefore hgave =>
      hbefore.not_ge (sub_nonpos.mp (hsettled.of_gaveUp hgave).2.1)
  · exact fun hmore => absurd hmore hread
  · exact fun hmore => absurd hmore hread

/-- Reading for some time gives up exactly if the line starves. -/
theorem receive_gaveUp_iff {l : Line ℚ} (hpipe : l.IsPipe) {time : ℚ} (htime : 0 < time) :
    gaveUp ((receive (some time)).apply l).1 = true ↔ l.Starving time := by
  have hclock : l.clock < l.clock + time := lt_add_of_pos_right _ htime
  rw [IsPipe] at hpipe
  simp only [receive, Action.apply_ofFun, Channel.receive, Option.getD_some, Intake.receive,
    Timeline.fits_rat, if_true, hpipe]
  cases hclosed : l.channel.intake.inlet.closed with
  | true =>
    rw [gaveUp_of_closed rfl hclock]
    refine ⟨fun hgave => absurd hgave Bool.false_ne_true, fun hstarving => ?_⟩
    rw [hstarving.isOpen] at hclosed
    cases hclosed
  | false =>
    have hiff := @receiveFrom_gaveUp_iff ⟨true, false⟩ rfl rfl ⟨l.clock + time, time⟩ l.clock hclock
      l.channel.intake.buffer l.channel.intake.inlet.pending
    rw [hiff]
    exact ⟨fun h => ⟨hclosed, h⟩, fun h => h.starves⟩

/-- A read that gives a message is over at once, or when bytes come in that are in line; what is in
line afterwards was in line before. -/
theorem receive_message {l t : Line ℚ} (hpipe : l.IsPipe) {time : ℚ} {m : Message}
    (hread : (receive (some time)).apply l = (.ok m, t)) :
    t.channel.intake.inlet.pending <:+ l.channel.intake.inlet.pending ∧
      (t.clock = l.clock ∨ ∃ piece ∈ l.channel.intake.inlet.pending, piece.bytes ≠ [] ∧
        l.clock < piece.time ∧ t.clock = piece.time) := by
  rw [IsPipe] at hpipe
  simp only [receive, Action.apply_ofFun, Channel.receive, Option.getD_some, Intake.receive,
    Timeline.fits_rat, if_true, hpipe] at hread
  obtain ⟨houtcome, rfl⟩ := Prod.mk.inj hread
  obtain ⟨gone, -, hpending, -, -⟩ := receiveFrom_message _ _ _ _ _ houtcome
  refine ⟨⟨gone, hpending.symm⟩, ?_⟩
  exact receiveFrom_clock_of_message rfl _ _ _ _ houtcome

/-- **No silence goes by in a read that gives a message**, if it is allowed no more than `time`. -/
theorem Lively.receive {l s t : Line ℚ} {time most : ℚ} (hlively : Lively time l s)
    (hmost : most ≤ time) {m : Message}
    (hread : (Line.receive (some most)).apply s = (.ok m, t)) : Lively time l t := by
  obtain ⟨hsuffix, hclock⟩ := receive_message hlively.isPipe hread
  obtain ⟨hstart, hend, -⟩ := receive_inTime hlively.isPipe most
  have hkept : t.IsPipe ∧ t.channel.outlet = s.channel.outlet := by
    have htimed := timed_receive (some most) s
    rw [hread] at htimed
    refine ⟨htimed.trans hlively.isPipe, ?_⟩
    have houtlet : ((Line.receive (some most)).apply s).2.channel.outlet = s.channel.outlet := rfl
    rwa [hread] at houtlet
  rw [hread] at hstart hend
  refine ⟨hkept.1, hkept.2 ▸ hlively.outlet_faults, hsuffix.trans hlively.pending,
    hlively.clock_le.trans hstart, fun since hsince hbefore hsilent => ?_⟩
  -- before the read there was no silence, and what ended it came in soon enough after that
  rcases lt_or_ge since s.clock with hearlier | hlater
  · exact hlively.not_silent since hsince hearlier hsilent
  · rcases hclock with heq | ⟨piece, hpiece, hfilled, -, heq⟩
    · rw [heq] at hbefore
      exact absurd hbefore (not_lt.mpr hlater)
    · refine hsilent piece (hlively.pending.subset hpiece) hfilled ⟨heq ▸ hbefore, ?_⟩
      rw [← heq]
      rcases le_max_iff.mp hend with hle | hle
      · exact absurd hbefore (not_lt.mpr (hle.trans hlater))
      · exact hle.trans (add_le_add hlater hmost)

/-! ### All reads -/

theorem attend_surroundings (p : Preferences) (m : Message) :
    ((link : Link (Line ℚ) ℚ).surroundings p).attend m = ClassOrder.attend link p m := by
  cases m with
  | response rid result error => rfl
  | request rid method params => exact answer_surroundings link p _
  | notification method params => exact answer_surroundings link p _

/-- What is done about a message leaves the clock and what is in line alone. -/
theorem Lively.attend {l s t : Line ℚ} {time : ℚ} (hlively : Lively time l s) {p : Preferences}
    {m : Message} {r : Except (Fault ℚ) Unit}
    (hattend : (((link : Link (Line ℚ) ℚ).surroundings p).attend m).apply s = (r, t)) :
    Lively time l t := by
  have hsend (message : Message) : (link.send message).Keeps (Lively time l) := by
    refine Keeps.of_apply fun u hu => ?_
    obtain ⟨hwrite, hflush⟩ := u.channel.outlet.faults_write message.frame
    exact ⟨hu.isPipe, ⟨hwrite.trans hu.outlet_faults.1, hflush.trans hu.outlet_faults.2⟩,
      hu.pending, hu.clock_le, hu.not_silent⟩
  have hkeeps : (ClassOrder.attend link p m).Keeps (Lively time l) :=
    attend_keeps
      (fun _ _ hu => ⟨hu.isPipe, hu.outlet_faults, hu.pending, hu.clock_le, hu.not_silent⟩)
      (fun _ _ => hsend _) p m
  have ht := hkeeps.apply hlively
  rw [attend_surroundings] at hattend
  rwa [hattend] at ht

/-- **No silence goes by while messages are passed over**: by induction on the messages. -/
theorem Lively.passes {l s t : Line ℚ} {b : Bounds ℚ} {id : MessageId} {p : Preferences}
    {before : List Message} (hlively : Lively b.readTimeout l s)
    (hpasses : ((link : Link (Line ℚ) ℚ).surroundings p).Passes b id s before t) :
    Lively b.readTimeout l t := by
  induction hpasses with
  | nil s => exact hlively
  | cons hread hother hattend _ ih =>
    refine ih ((hlively.receive ?_ hread.receive_eq).attend hattend)
    rw [earlier_eq_min]
    exact min_le_left _ _

/-! ### Requests -/

section

variable {x : Exchange ℚ} {method : String} {params : Json} {timeout : Option ℚ} {l u : Line ℚ}

/-- What a line has to do with when it is used for an exchange. -/
abbrev around (x : Exchange ℚ) : Surroundings (Line ℚ) ℚ :=
  (link : Link (Line ℚ) ℚ).surroundings x.preferences

/-- No fault of the outlet reads like the report of a stalled request. -/
def Distinct (l : Line ℚ) : Prop :=
  ∀ fault, l.channel.outlet.writeFault = some fault ∨ l.channel.outlet.flushFault = some fault →
    fault.readTimeout? = none

theorem Lively.readTimeout?_of_send {time : ℚ} {s : Line ℚ} {m : Message} {fault : Fault ℚ}
    (hdistinct : l.Distinct) (hlively : Lively time l s)
    (hsend : ((link.send m).apply s).1 = .error fault) : fault.readTimeout? = none := by
  rcases Channel.send_eq_error (c := s.channel) hsend with hlost | hwrite | hflush
  · cases fault <;> first | rfl | cases hlost
  · exact hdistinct fault (.inl (hlively.outlet_faults.1 ▸ hwrite))
  · exact hdistinct fault (.inr (hlively.outlet_faults.2 ▸ hflush))

/-- At the beginning nothing has been silent. -/
theorem lively_of_intake_eq (hpipe : l.IsPipe) (time : ℚ)
    (hintake : u.channel.intake = l.channel.intake) (hclock : u.clock = l.clock)
    (hfaults : u.channel.outlet.writeFault = l.channel.outlet.writeFault ∧
      u.channel.outlet.flushFault = l.channel.outlet.flushFault) : Lively time l u where
  isPipe := by
    rw [IsPipe, hintake]
    exact hpipe
  outlet_faults := hfaults
  pending := hintake ▸ List.suffix_rfl
  clock_le := hclock.ge
  not_silent since hsince hbefore := absurd hbefore (not_lt.mpr (hclock ▸ hsince))

/-- Sending a request leaves the clock and what is in line alone. -/
theorem lively_ask {r : Except (Fault ℚ) Unit} (hpipe : l.IsPipe) (time : ℚ) {id : Int}
    (hask : ((around x).ask id method params).apply l = (r, u)) :
    Lively time l u ∧ u.clock = l.clock := by
  rw [ask_apply] at hask
  obtain ⟨-, rfl⟩ := Prod.mk.inj hask
  obtain ⟨hwrite, hflush⟩ :=
    l.channel.outlet.faults_write (Message.request (.number id) method params).frame
  exact ⟨lively_of_intake_eq hpipe time rfl rfl ⟨hwrite, hflush⟩, rfl⟩

/-- What sending a request fails with is no report of a stalled one. -/
theorem readTimeout?_of_ask {fault : Fault ℚ} (hpipe : l.IsPipe) (hdistinct : l.Distinct) {id : Int}
    (hask : ((around x).ask id method params).apply l = (.error fault, u)) :
    fault.readTimeout? = none := by
  rw [ask_apply] at hask
  have hnoted := lively_of_intake_eq hpipe 0 (u := l.note
    ⟨.debug, "Sending request " ++ toString id ++ ": " ++ method⟩) rfl rfl ⟨rfl, rfl⟩
  exact hnoted.readTimeout?_of_send hdistinct (congrArg Prod.fst hask)

/-- What attending to a message fails with is no such report either. -/
theorem Lively.readTimeout?_of_attend {time : ℚ} {s t : Line ℚ} {m : Message} {fault : Fault ℚ}
    (hdistinct : l.Distinct) (hlively : Lively time l s)
    (hattend : ((around x).attend m).apply s = (.error fault, t)) : fault.readTimeout? = none := by
  rw [around, attend_surroundings] at hattend
  rcases attend_eq_error hattend with rfl | ⟨reply, w, hw, hsend⟩
  · rfl
  · have hnoted : Lively time l w := by
      rcases hw with rfl | ⟨r, rfl⟩
      · exact hlively
      · exact ⟨hlively.isPipe, hlively.outlet_faults, hlively.pending, hlively.clock_le,
          hlively.not_silent⟩
    exact hnoted.readTimeout?_of_send hdistinct (congrArg Prod.fst hsend)

/-- Waiting stalls where the line starves, while more is left than one read has. -/
theorem ends_stalled_iff_starving {b : Bounds ℚ} {id : MessageId} {s : Line ℚ}
    (hpipe : s.IsPipe) (hread : 0 < b.readTimeout) :
    (∃ t, (around x).Ends b id s .stalled t) ↔
      b.readTimeout < b.remaining s.clock ∧ s.Starving b.readTimeout := by
  have hmin (hless : b.readTimeout < b.remaining s.clock) :
      earlier b.readTimeout (b.remaining s.clock) = b.readTimeout := by
    rw [earlier_eq_min]
    exact min_eq_left hless.le
  constructor
  · rintro ⟨t, hends⟩
    obtain ⟨left, fault, ⟨rfl, -, hgot⟩, hkind, hless⟩ := ends_stalled_iff.mp hends
    have hgot' : (Line.receive (some b.readTimeout)).apply s = (.error fault, t) :=
      hmin hless ▸ hgot
    refine ⟨hless, (receive_gaveUp_iff hpipe hread).mp ?_⟩
    rw [hgot', gaveUp, decide_eq_true_eq]
    exact hkind
  · rintro ⟨hless, hstarving⟩
    have hgave := (receive_gaveUp_iff hpipe hread).mpr hstarving
    rcases hgot : (Line.receive (some b.readTimeout)).apply s with ⟨fault | m, t⟩
    · rw [hgot, gaveUp, decide_eq_true_eq] at hgave
      refine ⟨t, ends_stalled_iff.mpr ⟨_, fault, ⟨rfl, ?_, ?_⟩, hgave, hless⟩⟩
      · exact not_le.mpr (hread.trans hless)
      · exact (congrArg (fun time => (Line.receive (some time)).apply s) (hmin hless)).trans hgot
    · rw [hgot] at hgave
      cases hgave

/-- The read that stalls takes all the time that one read has. -/
theorem clock_of_stalled {b : Bounds ℚ} {id : MessageId} {s t : Line ℚ} (hpipe : s.IsPipe)
    (hread : 0 < b.readTimeout) (hends : (around x).Ends b id s .stalled t) :
    t.clock = s.clock + b.readTimeout := by
  obtain ⟨left, fault, ⟨rfl, -, hgot⟩, hkind, hless⟩ := ends_stalled_iff.mp hends
  have hmin : earlier b.readTimeout (b.remaining ((around x).look s).1) = b.readTimeout := by
    rw [earlier_eq_min]
    exact min_eq_left hless.le
  rw [hmin] at hgot
  have hgot' : (Line.receive (some b.readTimeout)).apply s = (.error fault, t) := hgot
  obtain ⟨-, hend, hover⟩ := receive_inTime hpipe b.readTimeout
  rw [hgot'] at hend hover
  rw [max_eq_right (le_add_of_nonneg_right hread.le)] at hend
  refine le_antisymm hend (hover ?_)
  rw [gaveUp, decide_eq_true_eq]
  exact hkind

end

end Line

open Line

/-- **Where a request stalls**: it was sent, messages were passed over, and then waiting stalled. -/
theorem request_stalled_cases {l v : Line ℚ} (hpipe : l.IsPipe) (hdistinct : l.Distinct)
    (x : Exchange ℚ) (method : String) (params : Json) (timeout : Option ℚ) :
    let limit := timeout.getD x.requestTimeout
    let id := x.lastId + 1
    let done := x.request Line.link method params timeout l
    done.1 = .error (.requestStalled method x.readTimeout limit) ∧ done.2.2 = v ↔
      ∃ sent before t, ((around x).ask id method params).apply l = (.ok (), sent) ∧
        (around x).Passes ⟨l.clock, limit, x.readTimeout⟩ (.number id) sent before t ∧
          (around x).Ends ⟨l.clock, limit, x.readTimeout⟩ (.number id) t .stalled v := by
  intro limit id done
  have hdone : done = (around x).request method params timeout x l :=
    (request_surroundings Line.link method params timeout x l).symm
  rcases hask : ((around x).ask id method params).apply l with ⟨fault | ⟨⟩, sent⟩
  · rw [hdone, request_of_not_sent (around x) hask]
    constructor
    · rintro ⟨hstalled, -⟩
      have hown := readTimeout?_of_ask hpipe hdistinct hask
      rw [Except.error.inj hstalled] at hown
      cases hown
    · rintro ⟨_, _, _, hsent, -⟩
      cases hsent
  · obtain ⟨hlively, hclock⟩ := lively_ask hpipe x.readTimeout hask
    have hdwindles : (around x).Dwindles := Line.dwindles.surroundings x.preferences
    obtain ⟨before, t, ending, w, hpasses, hends⟩ :=
      exists_passes_ends ⟨l.clock, limit, x.readTimeout⟩ (.number id) hdwindles sent
    have hawait := (await_eq_iff hdwindles).mpr ⟨before, t, hpasses, hends⟩
    have hlook : (around x).look sent = (l.clock, sent) := by rw [← hclock]; rfl
    have hfinal : done = (ending.outcome method limit x.readTimeout,
        { x with lastId := id, state := ending.stateAfter }, w) := by
      rw [hdone, request_of_sent (around x) hask (Timeline.fits_rat _)]
      simp only [hlook]
      rw [hawait]
    rw [hfinal]
    constructor
    · rintro ⟨hstalled, rfl⟩
      cases ending with
      | stalled => exact ⟨sent, before, t, rfl, hpasses, hends⟩
      | failed fault =>
        -- neither reading nor attending to a message fails like that
        obtain rfl : fault = _ := Except.error.inj hstalled
        rcases hends.of_failed with ⟨left, -, hkind⟩ | ⟨left, m, u, hread, hattend⟩
        · exact absurd rfl hkind
        · have hshort : earlier x.readTimeout left ≤ x.readTimeout := by
            rw [earlier_eq_min]
            exact min_le_left _ _
          have hown := ((hlively.passes hpasses).receive hshort hread.receive_eq
            ).readTimeout?_of_attend hdistinct hattend
          cases hown
      | answered | refused | expired => cases hstalled
    · rintro ⟨_, before', t', hsent, hpasses', hends'⟩
      obtain rfl : sent = _ := congrArg Prod.snd hsent
      -- there is no other course of rounds
      have hstalled := (await_eq_iff hdwindles).mpr ⟨before', t', hpasses', hends'⟩
      obtain ⟨rfl, rfl⟩ := Prod.mk.inj (hawait.symm.trans hstalled)
      exact ⟨rfl, rfl⟩

/-- **When a request stalls, and when the server was silent then.**  A request on a pipe stalls
exactly if it is sent, messages are passed over, and then, with more left than one read has, the
line starves: in the time of one read there are too few bytes for a message.  Whether any came in is
another matter.  Of all the time of a request that stalled, only that last read can have been a
silence as long as a read; so the report that there was no data for so long is true if there was
none in that read, and false of every server that was writing then. -/
theorem request_stalled_iff {l : Line ℚ} (hpipe : l.IsPipe) (hdistinct : l.Distinct)
    (x : Exchange ℚ) (hread : 0 < x.readTimeout) (method : String) (params : Json)
    (timeout : Option ℚ) :
    let limit := timeout.getD x.requestTimeout
    let id := x.lastId + 1
    let done := x.request Line.link method params timeout l
    let ended := done.2.2.clock
    (done.1 = .error (.requestStalled method x.readTimeout limit) ↔
      ∃ sent before t, ((around x).ask id method params).apply l = (.ok (), sent) ∧
        (around x).Passes ⟨l.clock, limit, x.readTimeout⟩ (.number id) sent before t ∧
          x.readTimeout < limit - (t.clock - l.clock) ∧ t.Starving x.readTimeout) ∧
      (done.1 = .error (.requestStalled method x.readTimeout limit) →
        ((∃ since, l.clock ≤ since ∧ since + x.readTimeout ≤ ended ∧
          l.Silent since x.readTimeout) ↔ l.Silent (ended - x.readTimeout) x.readTimeout)) := by
  intro limit id done ended
  have hcases {v : Line ℚ} := request_stalled_cases (v := v) hpipe hdistinct x method params timeout
  have hlively {sent t : Line ℚ} {before : List Message}
      (hask : ((around x).ask id method params).apply l = (.ok (), sent))
      (hpasses : (around x).Passes ⟨l.clock, limit, x.readTimeout⟩ (.number id) sent before t) :
      Lively x.readTimeout l t :=
    Lively.passes (lively_ask hpipe x.readTimeout hask).1 hpasses
  have hstarving {sent t : Line ℚ} {before : List Message}
      (hask : ((around x).ask id method params).apply l = (.ok (), sent))
      (hpasses : (around x).Passes ⟨l.clock, limit, x.readTimeout⟩ (.number id) sent before t) :
      (∃ v, (around x).Ends ⟨l.clock, limit, x.readTimeout⟩ (.number id) t .stalled v) ↔
        x.readTimeout < limit - (t.clock - l.clock) ∧ t.Starving x.readTimeout :=
    ends_stalled_iff_starving (hlively hask hpasses).isPipe hread
  refine ⟨⟨fun hstalled => ?_, ?_⟩, fun hstalled => ?_⟩
  · obtain ⟨sent, before, t, hask, hpasses, hends⟩ := hcases.mp ⟨hstalled, rfl⟩
    exact ⟨sent, before, t, hask, hpasses, (hstarving hask hpasses).mp ⟨_, hends⟩⟩
  · rintro ⟨sent, before, t, hask, hpasses, hstarves⟩
    obtain ⟨v, hends⟩ := (hstarving hask hpasses).mpr hstarves
    exact (hcases.mpr ⟨sent, before, t, hask, hpasses, hends⟩).1
  · obtain ⟨sent, before, t, hask, hpasses, hends⟩ := hcases.mp ⟨hstalled, rfl⟩
    have hwait := hlively hask hpasses
    have hlast : t.clock = ended - x.readTimeout :=
      eq_sub_of_add_eq (clock_of_stalled hwait.isPipe hread hends).symm
    rw [← hlast]
    constructor
    · rintro ⟨since, hbegun, hwithin, hsilent⟩
      -- the silence is no earlier than the last read
      have hlate : ¬ since < t.clock := fun hearly => hwait.not_silent since hbegun hearly hsilent
      have hsince : since = t.clock :=
        le_antisymm (hlast ▸ le_sub_iff_add_le.mpr hwithin) (not_lt.mp hlate)
      rwa [← hsince]
    · intro hsilent
      refine ⟨t.clock, hwait.clock_le, ?_, hsilent⟩
      rw [hlast, sub_add_cancel]

/-- A line on which a response comes in in four parts, one every three fifths of a second. -/
def tricklingLine : Line ℚ :=
  let answer : Message := .response (some (.number 1)) .null none
  { channel :=
      { intake :=
          { inlet :=
              { timed := true
                pending :=
                  [⟨3 / 5, .data (answer.frame.take 15)⟩,
                    ⟨6 / 5, .data ((answer.frame.drop 15).take 15)⟩,
                    ⟨9 / 5, .data ((answer.frame.drop 30).take 15)⟩,
                    ⟨12 / 5, .data (answer.frame.drop 45)⟩]
                latest := 12 / 5
                delay := 0 } }
        readTimeout := 1 }
    clock := 0 }

/-- An exchange that waits five seconds for a response and one second for a message. -/
def hastyExchange : Exchange ℚ :=
  { requestTimeout := 5, readTimeout := 1, preferences := .standard }

theorem request_stalled_iff_tricklingLine :
    tricklingLine.IsPipe ∧ tricklingLine.Distinct ∧ 0 < hastyExchange.readTimeout ∧
      let done := hastyExchange.request Line.link "find" .null none tricklingLine
      done.1 = .error (.requestStalled "find" 1 5) ∧
        ¬ ∃ since, tricklingLine.clock ≤ since ∧ since + 1 ≤ done.2.2.clock ∧
          tricklingLine.Silent since 1 := by
  have hdistinct : tricklingLine.Distinct := by
    intro fault hfault
    rcases hfault with hwrite | hflush
    · cases hwrite
    · cases hflush
  have hread : 0 < hastyExchange.readTimeout := by norm_num [hastyExchange]
  obtain ⟨hstalls, hsilence⟩ := request_stalled_iff (l := tricklingLine) rfl hdistinct hastyExchange
    hread "find" .null none
  -- only the first part comes in in the time of one read, and it is no whole header block
  have hstarving {sent : Line ℚ} (hclock : sent.clock = 0)
      (hintake : sent.channel.intake = tricklingLine.channel.intake) : sent.Starving 1 := by
    refine ⟨by rw [hintake]; rfl, ?_⟩
    rw [hclock, hintake]
    have hnone : splitBlock (skipLineEnds (tricklingLine.channel.intake.buffer ++
        (readBy (0 + 1) tricklingLine.channel.intake.inlet.pending).flatMap Piece.bytes)) =
        none := by decide +kernel
    exact ⟨by decide +kernel, _, by rw [scan, hnone]⟩
  have hsent : (((around hastyExchange).ask 1 "find" .null).apply tricklingLine).1.isOk = true := by
    decide +kernel
  have hstalled : (hastyExchange.request Line.link "find" .null none tricklingLine).1 =
      .error (.requestStalled "find" 1 5) :=
    hstalls.mpr ⟨_, [], _, Action.apply_of_isOk hsent, .nil _, by decide +kernel,
      hstarving rfl rfl⟩
  have hended :
      (hastyExchange.request Line.link "find" .null none tricklingLine).2.2.clock = 1 := by
    decide +kernel
  refine ⟨rfl, hdistinct, hread, hstalled, ?_⟩
  rintro ⟨since, hbegun, hwithin, hsilent⟩
  have hlast := (hsilence hstalled).mp ⟨since, hbegun, hwithin, hsilent⟩
  -- the first part came in while the last read, which was the only one, was waiting
  refine hlast ⟨3 / 5, .data _⟩ List.mem_cons_self (by decide +kernel) ?_
  rw [hended]
  norm_num [hastyExchange]

end ClassOrder
