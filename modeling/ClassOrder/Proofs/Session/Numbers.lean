import ClassOrder.Proofs.Session.Lasting

/-!
# The numbers of requests

A session numbers its requests, and no number is used twice as long as it lives: servers come and
go, but the count goes on.  It is kept in the exchange while there is a server, it is saved before
the server is taken down, however that ends, and the next exchange starts from there.  A request
that could not be sent has used up its number all the same.

## Main definitions

* `Session.asked` — the identifiers of all requests that have reached a server, in order.
* `Rising` — identifiers that are numbers, each larger than the one before.

## Main results

* `lastRequest_request`, `lastRequest_teardown`, `lastRequest_attach` — what happens to the count.
* `numbers_rise` — **the numbers of the requests of a run rise, whatever happens to its servers.**
-/

namespace ClassOrder

open ClassOrder.Action (Keeps Triple)

variable {τ α : Type}

/-- The identifier of a request, if that has passed. -/
def Passage.asked? : Passage → Option MessageId
  | sent (.request id _ _) => some id
  | _ => none

/-- The identifiers are numbers, each larger than the one before, all after `low` and up to
`high`. -/
structure Rising (low high : Int) (ids : List MessageId) : Prop where
  le : low ≤ high
  numbers : ∃ ns : List Int, ids = ns.map .number ∧ ns.Pairwise (· < ·) ∧
    ∀ n ∈ ns, low < n ∧ n ≤ high

namespace Rising

variable {low high : Int} {ids : List MessageId}

theorem nil (low : Int) : Rising low low [] := ⟨le_refl low, [], rfl, .nil, by simp⟩

/-- The next number may follow, and is the largest one then. -/
theorem next (h : Rising low high ids) : Rising low (high + 1) (ids ++ [.number (high + 1)]) := by
  obtain ⟨hle, ns, rfl, hrising, hbounds⟩ := h
  refine ⟨by omega, ns ++ [high + 1], by simp, ?_, fun n hn => ?_⟩
  · rw [List.pairwise_append]
    refine ⟨hrising, List.pairwise_singleton _ _, fun n hn m hm => ?_⟩
    rw [List.mem_singleton.mp hm]
    have := (hbounds n hn).2
    omega
  · rcases List.mem_append.mp hn with hn | hn
    · have := hbounds n hn
      omega
    · rw [List.mem_singleton.mp hn]
      omega

/-- A number that is passed over is never missed. -/
theorem skip (h : Rising low high ids) : Rising low (high + 1) ids := by
  obtain ⟨hle, ns, hids, hrising, hbounds⟩ := h
  refine ⟨by omega, ns, hids, hrising, fun n hn => ?_⟩
  have := hbounds n hn
  omega

end Rising

/-- The identifiers of the requests that have reached the server, in order. -/
def Server.asked (v : Server τ) : List MessageId := v.transcript.filterMap Passage.asked?

/-! ### Over a wire -/

namespace Wire

variable [Timeline τ] {ids : List MessageId}

/-- Serving a server asks it nothing. -/
theorem serves_asked (ids : List MessageId) :
    (Wire.link : Link (Wire τ) τ).Serves fun w => w.server.asked = ids := by
  refine serves_transcript (P := fun t => t.filterMap Passage.asked? = ids)
    (fun t id result ht => ?_) fun t m ht => ?_
  · rw [List.filterMap_append, ht]
    exact List.append_nil ids
  · rw [List.filterMap_append, ht]
    exact List.append_nil ids

theorem notify_asked (method : String) (params : Json) (w : Wire τ) :
    ((Exchange.notify Wire.link method params).apply w).2.server.asked = w.server.asked := by
  have hsent : (Wire.send (.notification method params) : Action (Wire τ) τ Unit).Keeps
      (fun w' => w'.server.asked = w.server.asked) :=
    send_transcript (P := fun t => t.filterMap Passage.asked? = w.server.asked)
      (Q := fun t => t.filterMap Passage.asked? = w.server.asked) fun t ht => by
        rw [List.filterMap_append, ht]
        exact List.append_nil _
  exact hsent.apply rfl

/-- A request asks the server itself, by the next number, or nothing. -/
theorem request_asked (method : String) (params : Json) (x : Exchange τ) (w : Wire τ) :
    let w' := (x.request Wire.link method params none w).2.2
    w'.server.asked = w.server.asked ∨
      w'.server.asked = w.server.asked ++ [.number (x.lastId + 1)] := by
  have hsent : Action.Triple (fun v => v.server.asked = w.server.asked)
      (Wire.send (.request (.number (x.lastId + 1)) method params) : Action (Wire τ) τ Unit)
      (fun _ v => v.server.asked = w.server.asked ++ [.number (x.lastId + 1)])
      (fun _ v => v.server.asked = w.server.asked) :=
    send_transcript (P := fun t => t.filterMap Passage.asked? = w.server.asked)
      (Q := fun t => t.filterMap Passage.asked? = w.server.asked ++ [.number (x.lastId + 1)])
      fun t ht => by
        rw [List.filterMap_append, ht]
        rfl
  have hspec := x.request_spec method params (B := fun v => v.server.asked = w.server.asked)
    (fun _ _ h => h) hsent
    ((serves_asked (w.server.asked ++ [.number (x.lastId + 1)])).awaits _) none rfl
  dsimp only
  generalize x.request Wire.link method params none w = talked at hspec
  obtain ⟨fault | result, y, v⟩ := talked
  · rcases hspec with h | h | h
    · exact .inr h
    · exact .inr h
    · exact .inl h
  · exact .inr hspec

end Wire

namespace Session

variable {s t : Session τ}

/-- The identifiers of all requests that have reached a server, in order. -/
def asked (s : Session τ) : List MessageId := s.servers.flatMap (·.asked)

theorem asked_of_attached {a : Attached τ} (ha : s.attached = some a) :
    s.asked = s.former.flatMap (·.asked) ++ a.server.asked := by
  simp [asked, servers, ha]

theorem asked_of_attached_none (ha : s.attached = none) :
    s.asked = s.former.flatMap (·.asked) := by
  simp [asked, servers, ha]

theorem asked_congr (h : t.transcripts = s.transcripts) : t.asked = s.asked := by
  have hall (u : Session τ) : u.asked = u.transcripts.flatMap (List.filterMap Passage.asked?) := by
    simp [asked, transcripts, List.flatMap_map, Server.asked]
  rw [hall, hall, h]

theorem lastRequest_of_attached {a : Attached τ} (ha : s.attached = some a) :
    s.lastRequest = a.exchange.lastId := by
  rw [lastRequest, ha]

theorem lastRequest_of_attached_none (ha : s.attached = none) : s.lastRequest = s.lastId := by
  rw [lastRequest, ha]

theorem lastRequest_onServer (change : τ → Server τ → Server τ) (s : Session τ) :
    (s.onServer change).lastRequest = s.lastRequest := by
  cases ha : s.attached with
  | none => simp [lastRequest, onServer, ha]
  | some a => simp [lastRequest, onServer, ha]

/-! ### The count -/

/-- The number of the last request is `n`, and it has been saved. -/
structure Saved (n : Int) (s : Session τ) : Prop where
  saved : s.lastId = n
  attached : ∀ a, s.attached = some a → a.exchange.lastId = n

theorem Saved.lastRequest {n : Int} (h : s.Saved n) : s.lastRequest = n := by
  cases ha : s.attached with
  | none => rw [lastRequest_of_attached_none ha, h.saved]
  | some a => rw [lastRequest_of_attached ha, h.attached a ha]

theorem bears_saved (n : Int) : Bears (τ := τ) (fun _ _ => True) (Saved n) where
  note _ h := ⟨h.saved, h.attached⟩
  happen _ h := ⟨h.saved, h.attached⟩
  onServer _ h := by
    refine ⟨h.saved, fun b hb => ?_⟩
    obtain ⟨a, ha, rfl⟩ := Option.map_eq_some_iff.mp hb
    exact h.attached a ha

variable [Timeline τ]

/-- **The count outlives the server.**  It is saved before anything else is done, so a teardown
that stops half-way has saved it as well. -/
theorem lastRequest_teardown (graceful : Bool) (s : Session τ) :
    ((teardown graceful).apply s).2.lastRequest = s.lastRequest := by
  -- from the saving on, whatever is done and wherever it stops
  have hgo (n : Int) : (do closeOutputs; detach : Action (Session τ) τ Unit).Keeps (Saved n) :=
    Keeps.bind ((bears_saved n).closeOutputs (fun _ => trivial) fun _ => trivial) fun _ =>
      Keeps.modify fun s hs => ⟨hs.saved, fun a ha => by cases ha⟩
  have hkeeps (n : Int) : (teardown graceful : Action (Session τ) τ Unit).Keeps
      (fun t => t.lastRequest = n) := by
    refine (bears_saved n).teardown Server.undergoes_any (fun t ht _ => ?_)
      (((bears_saved n).closeStream fun _ _ => trivial).post (fun _ _ h => h)
        fun _ _ h => h.lastRequest)
      ((hgo n).post (fun _ _ h => h.lastRequest) fun _ _ h => h.lastRequest)
      (fun _ ht _ => ht) graceful
    exact ⟨ht, fun a ha => (lastRequest_of_attached (s := t) ha).symm.trans ht⟩
  exact (hkeeps s.lastRequest).apply rfl

/-- A new server goes on with the count. -/
theorem lastRequest_attach (c : Conduct τ) (hnone : s.attached = none) :
    (s.attach c).lastRequest = s.lastRequest :=
  (lastRequest_of_attached_none hnone).symm

/-! ### The numbers -/

/-- A request counts, whether it could be sent or not. -/
theorem lastRequest_request (method : String) (params : Json) {a : Attached τ}
    (ha : s.attached = some a) :
    ((request method params).apply s).2.lastRequest = s.lastRequest + 1 := by
  obtain ⟨-, hattached, -⟩ := onWire_apply
    (fun x w => x.request Wire.link method params none w) ha
  rw [request, lastRequest_of_attached hattached, lastRequest_of_attached ha]
  rfl

/-- The identifiers that have come after the earlier ones are numbers that rise from `low` to the
number of the last request. -/
def Numbered (low : Int) (earlier : List MessageId) (s : Session τ) : Prop :=
  ∃ later, s.asked = earlier ++ later ∧ Rising low s.lastRequest later

variable {low : Int} {earlier : List MessageId}

omit [Timeline τ] in
theorem Numbered.of_eq (h : s.Numbered low earlier) (hasked : t.asked = s.asked)
    (hlast : t.lastRequest = s.lastRequest) : t.Numbered low earlier := by
  rw [Numbered, hasked, hlast]
  exact h

omit [Timeline τ] in
/-- Talking that neither asks nor counts. -/
theorem onWire_numbered {talk : Exchange τ → Wire τ → Except (Fault τ) α × Exchange τ × Wire τ}
    (hlast : ∀ x w, (talk x w).2.1.lastId = x.lastId)
    (htalk : ∀ x (w : Wire τ), (talk x w).2.2.server.asked = w.server.asked) :
    (onWire talk : Action (Session τ) τ α).Keeps (Numbered low earlier) := by
  refine Keeps.of_apply fun s hs => ?_
  cases ha : s.attached with
  | none => rwa [onWire_of_attached_none talk ha]
  | some a =>
    obtain ⟨-, hattached, hformer⟩ := onWire_apply talk ha
    refine hs.of_eq ?_ ?_
    · rw [asked_of_attached hattached, asked_of_attached ha, hformer, htalk]
    · rw [lastRequest_of_attached hattached, lastRequest_of_attached ha, hlast]

/-- A request takes the next number; if it does not reach the server, that number is passed
over. -/
theorem request_numbered (method : String) (params : Json) :
    (request method params : Action (Session τ) τ Json).Keeps (Numbered low earlier) := by
  refine Keeps.of_apply fun s ⟨later, hlater, hrising⟩ => ?_
  cases ha : s.attached with
  | none =>
    rw [request, onWire_of_attached_none _ ha]
    exact ⟨later, hlater, hrising⟩
  | some a =>
    obtain ⟨-, hattached, hformer⟩ := onWire_apply
      (fun x w => x.request Wire.link method params none w) ha
    have hlast := lastRequest_request method params ha
    have hasked := asked_of_attached hattached
    rw [hformer] at hasked
    rw [asked_of_attached ha] at hlater
    rcases Wire.request_asked method params a.exchange ⟨a.server, s.world.clock, s.world.log⟩ with
      h | h
    · -- the request was not sent
      refine ⟨later, ?_, ?_⟩
      · rw [← hlater, ← h]
        exact hasked
      · rw [hlast]
        exact hrising.skip
    · refine ⟨later ++ [.number (s.lastRequest + 1)], ?_, ?_⟩
      · rw [← List.append_assoc, ← hlater, List.append_assoc, lastRequest_of_attached ha, ← h]
        exact hasked
      · rw [hlast]
        exact hrising.next

/-- **What has been numbered stays numbered**: a server that was launched has not been asked
anything yet, and one that is taken down takes what it was asked to those of before. -/
theorem lasting_numbered (low : Int) (earlier : List MessageId) :
    Lasting (τ := τ) (Numbered low earlier) where
  quiet s t hholdings h := by
    refine h.of_eq (asked_congr (transcripts_congr hholdings)) ?_
    have hattached : t.attached = s.attached := congrArg Holdings.attached hholdings
    have hsaved : t.lastId = s.lastId := congrArg Holdings.lastId hholdings
    rw [lastRequest, lastRequest, hattached, hsaved]
  request := request_numbered
  notify method params := onWire_numbered (fun _ _ => rfl) fun x w =>
    Wire.notify_asked method params w
  drain timeout := onWire_numbered (fun _ _ => rfl) fun x w =>
    x.drain_keeps (Wire.serves_asked w.server.asked) timeout rfl
  teardown graceful := Keeps.of_apply fun s h =>
    h.of_eq (asked_congr ((teardown_transcripts graceful s.transcripts).apply rfl))
      (lastRequest_teardown graceful s)
  attach s _ c hnone _ h := by
    refine h.of_eq ?_ (lastRequest_attach c hnone)
    rw [asked_of_attached_none hnone, asked_of_attached rfl]
    simp [attach, Server.asked, Server.launch]
  act s deeds h := by
    refine h.of_eq (asked_congr ?_) (lastRequest_onServer _ s)
    exact transcripts_onServer (fun now v => Server.transcript_performAll now deeds v) s
  breakInput s fault h := by
    refine h.of_eq (asked_congr ?_) (lastRequest_onServer _ s)
    have hbroken (now : τ) (v : Server τ) :
        (v.breakInput fault none).transcript = v.transcript := rfl
    exact transcripts_onServer hbroken s

end Session

variable [Timeline τ]

/-- **The numbers of the requests of a run rise, whatever happens to its servers.**  After any
turns, with servers that crash, hang, break off or cannot be launched, the identifiers of all
requests that have reached a server, taken in order, are positive numbers, each larger than the one
before.  Whatever turns come after that, on this server or the next ones, the identifiers that are
added are larger still: even larger than those of requests that could not be sent, which count as
well. -/
theorem numbers_rise (settings : Settings τ) (project : Project) (world : World τ)
    (turns more : List (Turn τ)) :
    let s := (Session.ofProject settings project world).run turns
    Rising 0 s.lastRequest s.asked ∧
      ∃ added, (s.run more).asked = s.asked ++ added ∧
        Rising s.lastRequest (s.run more).lastRequest added := by
  obtain ⟨all, hall, hrising⟩ := (Session.lasting_numbered 0 []).run turns
    (s := Session.ofProject settings project world) ⟨[], rfl, .nil 0⟩
  rw [List.nil_append] at hall
  refine ⟨hall ▸ hrising, ?_⟩
  exact (Session.lasting_numbered _ _).run more ⟨[], (List.append_nil _).symm, .nil _⟩

-- the handshake is in vain, which ends the server, and so it goes with the next one
example : ((sampleSession {} {} {} : Session ℚ).run [.call .start, .call .start]).asked =
    [.number 1, .number 2] := by decide +kernel

end ClassOrder
