import ClassOrder.Proofs.Session.Premises
import ClassOrder.Proofs.Session.Transcript

/-!
# What talking tells a server

Talking to the server that there is adds to what it has been told, and leaves everything else of
the session as it is: a request adds itself and the replies made while it waits, a notification
adds itself, and a drain adds replies.

## Main definitions

* `Session.received?` — what the server that there is has been told.
* `Session.Tells` — one session as what talking has made of another.

## Main results

* `request_tells`, `notify_tells`, `drain_tells` — what the three tell a server.
-/

namespace ClassOrder

open ClassOrder.Action (Keeps Triple)

variable {τ α : Type}

/-- A reply to the server as a message, told by what it replies to and what it says. -/
def replyMessage (r : MessageId × Json) : Message := .response (some r.1) r.2 none

/-- A request, and the replies made while it waits. -/
def requested (method : String) (params : Json) (id : MessageId)
    (replies : List (MessageId × Json)) : List Message :=
  .request id method params :: replies.map replyMessage

namespace Session

variable {s t u : Session τ} {ms more : List Message}

/-- What the server that there is has been told. -/
def received? (s : Session τ) : Option (List Message) := s.attached.map (·.server.received)

/-- The second session has told the server `ms` since the first, and is the same otherwise. -/
structure Tells (ms : List Message) (s t : Session τ) : Prop where
  told : t.received? = s.received?.map (· ++ ms)
  former : t.former = s.former
  premises : t.premises = s.premises
  version : t.documentVersion = s.documentVersion

namespace Tells

theorem refl (s : Session τ) : Tells [] s s := ⟨by simp, rfl, rfl, rfl⟩

theorem of_attached (h : t.attached = s.attached) (hformer : t.former = s.former)
    (hpremises : t.premises = s.premises) (hversion : t.documentVersion = s.documentVersion) :
    Tells [] s t :=
  ⟨(congrArg (Option.map _) h).trans (refl s).told, hformer, hpremises, hversion⟩

theorem trans (h : Tells ms s t) (h' : Tells more t u) : Tells (ms ++ more) s u where
  told := by simp [h'.told, h.told, Function.comp_def]
  former := h'.former.trans h.former
  premises := h'.premises.trans h.premises
  version := h'.version.trans h.version

theorem received? (h : Tells more s t) (hs : s.received? = some ms) :
    t.received? = some (ms ++ more) := by
  rw [h.told, hs, Option.map_some]

end Tells

/-- Talking tells the server that there is what it adds to the transcript. -/
theorem onWire_tells (talk : Exchange τ → Wire τ → Except (Fault τ) α × Exchange τ × Wire τ)
    {Q : α → List Message → Prop} {E : Fault τ → List Message → Prop} (hlacking : E lacking [])
    (htalk : ∀ x (w : Wire τ), match talk x w with
      | (.ok r, _, v) => ∃ ms, Q r ms ∧ v.server.received = w.server.received ++ ms
      | (.error fault, _, v) => ∃ ms, E fault ms ∧ v.server.received = w.server.received ++ ms)
    (s : Session τ) :
    Triple (· = s) (onWire talk) (fun r t => ∃ ms, Q r ms ∧ Tells ms s t)
      (fun fault t => ∃ ms, E fault ms ∧ Tells ms s t) := by
  rintro s rfl
  have hpremises := (outward_onWire talk).apply s
  cases ha : s.attached with
  | none =>
    rw [onWire_of_attached_none talk ha]
    exact ⟨[], hlacking, .refl s⟩
  | some a =>
    have hrun := htalk a.exchange ⟨a.server, s.world.clock, s.world.log⟩
    rw [onWire, Action.apply_ofFun] at hpremises ⊢
    simp only [ha] at hpremises ⊢
    generalize talk a.exchange _ = talked at hrun hpremises ⊢
    obtain ⟨fault | r, x, w⟩ := talked
    · obtain ⟨ms, hE, hreceived⟩ := hrun
      exact ⟨ms, hE, by simp [received?, ha, hreceived], rfl, hpremises, rfl⟩
    · obtain ⟨ms, hQ, hreceived⟩ := hrun
      exact ⟨ms, hQ, by simp [received?, ha, hreceived], rfl, hpremises, rfl⟩

end Session

variable [Timeline τ]

theorem Wire.send_received (m : Message) (ms : List Message) :
    Triple (fun w => w.server.received = ms) (Wire.send m : Action (Wire τ) τ Unit)
      (fun _ w => w.server.received = ms ++ [m]) (fun _ w => w.server.received = ms) :=
  Wire.send_transcript (P := fun t => t.filterMap Passage.sent? = ms)
    (Q := fun t => t.filterMap Passage.sent? = ms ++ [m]) fun t ht => by
      rw [List.filterMap_append, ht]
      rfl

/-- The server has been told `ms` and then replied to. -/
def Wire.Replying (ms : List Message) (w : Wire τ) : Prop :=
  ∃ replies : List (MessageId × Json), w.server.received = ms ++ replies.map replyMessage

/-- Replies are all that serving a server tells it. -/
theorem Wire.serves_replying (ms : List Message) :
    (Wire.link : Link (Wire τ) τ).Serves (Wire.Replying ms) := by
  refine Wire.serves_transcript (P := fun t => ∃ replies : List (MessageId × Json),
    t.filterMap Passage.sent? = ms ++ replies.map replyMessage) (fun t id result ht => ?_)
    fun t m ht => ?_
  · obtain ⟨replies, ht⟩ := ht
    exact ⟨replies ++ [(id, result)], by simp [ht, reply, Passage.sent?, replyMessage]⟩
  · -- what is read tells the server nothing
    rw [List.filterMap_append]
    exact (List.append_nil _).symm ▸ ht

namespace Session

/-- **A request tells the server itself and the replies made while it waits**, or nothing if it
cannot be sent. -/
theorem request_tells (method : String) (params : Json) (s : Session τ) :
    Triple (· = s) (request method params)
      (fun _ t => ∃ id replies, Tells (requested method params id replies) s t)
      (fun _ t => Tells [] s t ∨ ∃ id replies, Tells (requested method params id replies) s t) := by
  have htold := onWire_tells (fun x w => x.request Wire.link method params none w)
    (Q := fun _ ms => ∃ id replies, ms = requested method params id replies)
    (E := fun _ ms => ms = [] ∨ ∃ id replies, ms = requested method params id replies)
    (.inl rfl) (fun x w => ?_) s
  · refine htold.post (fun _ t ht => ?_) fun _ t ht => ?_
    · obtain ⟨ms, ⟨id, replies, rfl⟩, htells⟩ := ht
      exact ⟨id, replies, htells⟩
    · obtain ⟨ms, rfl | ⟨id, replies, rfl⟩, htells⟩ := ht
      · exact .inl htells
      · exact .inr ⟨id, replies, htells⟩
  · let id : MessageId := .number (x.lastId + 1)
    -- the request is the first thing that is told, and only replies follow while it waits
    have hspec := x.request_spec method params
      (B := fun v : Wire τ => v.server.received = w.server.received) (fun _ _ h => h)
      ((Wire.send_received (.request id method params) w.server.received).post
        (fun _ v hv => ⟨[], (List.append_nil _).symm ▸ hv⟩) fun _ _ hv => hv)
      ((Wire.serves_replying (w.server.received ++ [.request id method params])).awaits id) none rfl
    have hrequested (v : Wire τ)
        (hv : v.Replying (w.server.received ++ [.request id method params])) :
        ∃ ms, (∃ id replies, ms = requested method params id replies) ∧
          v.server.received = w.server.received ++ ms := by
      obtain ⟨replies, hreceived⟩ := hv
      exact ⟨_, ⟨id, replies, rfl⟩, by rw [hreceived, List.append_assoc]; rfl⟩
    generalize x.request Wire.link method params none w = talked at hspec
    obtain ⟨fault | result, y, v⟩ := talked
    · rcases hspec with h | h | h
      · exact (hrequested v h).imp fun ms hms => ⟨.inr hms.1, hms.2⟩
      · exact (hrequested v h).imp fun ms hms => ⟨.inr hms.1, hms.2⟩
      · exact ⟨[], .inl rfl, (List.append_nil _).symm ▸ h⟩
    · exact hrequested v hspec

/-- **A notification tells the server itself**, or nothing if it cannot be sent. -/
theorem notify_tells (method : String) (params : Json) (s : Session τ) :
    Triple (· = s) (notify method params)
      (fun _ => Tells [.notification method params] s) (fun _ => Tells [] s) := by
  rw [notify]
  refine Triple.post (onWire_tells _ (Q := fun _ ms => ms = [.notification method params])
    (E := fun _ ms => ms = []) rfl (fun x w => ?_) s) (fun _ t ht => ?_) fun _ t ht => ?_
  · have hsent := Wire.send_received (.notification method params) w.server.received w rfl
    dsimp only [Exchange.notify, Wire.link]
    generalize (Wire.send (.notification method params)).apply w = sent at hsent
    obtain ⟨fault | ⟨⟩, v⟩ := sent
    · exact ⟨[], rfl, (List.append_nil _).symm ▸ hsent⟩
    · exact ⟨_, rfl, hsent⟩
  · obtain ⟨ms, rfl, htells⟩ := ht
    exact htells
  · obtain ⟨ms, rfl, htells⟩ := ht
    exact htells

/-- **A drain tells the server replies alone.** -/
theorem drain_tells (timeout : τ) (s : Session τ) :
    Triple (· = s) (drain timeout)
      (fun _ t => ∃ replies : List (MessageId × Json), Tells (replies.map replyMessage) s t)
      (fun _ t => ∃ replies : List (MessageId × Json), Tells (replies.map replyMessage) s t) := by
  rw [drain]
  refine Triple.post (onWire_tells _
    (Q := fun _ ms => ∃ replies : List (MessageId × Json), ms = replies.map replyMessage)
    (E := fun _ ms => ∃ replies : List (MessageId × Json), ms = replies.map replyMessage)
    ⟨[], rfl⟩ (fun x w => ?_) s) (fun _ t ht => ?_) fun _ t ht => ?_
  · obtain ⟨replies, hreceived⟩ := x.drain_keeps (Wire.serves_replying w.server.received) timeout
      (s := w) ⟨[], (List.append_nil _).symm⟩
    dsimp only
    generalize x.drain Wire.link timeout w = drained at hreceived
    obtain ⟨fault | handled, v⟩ := drained
    · exact ⟨_, ⟨replies, rfl⟩, hreceived⟩
    · exact ⟨_, ⟨replies, rfl⟩, hreceived⟩
  · obtain ⟨ms, ⟨replies, rfl⟩, htells⟩ := ht
    exact ⟨replies, htells⟩
  · obtain ⟨ms, ⟨replies, rfl⟩, htells⟩ := ht
    exact ⟨replies, htells⟩

end Session

end ClassOrder
