import ClassOrder.Exchange.Script
import ClassOrder.Proofs.ExactTime
import ClassOrder.Proofs.Exchange.Surroundings
import ClassOrder.Proofs.Exchange.Waiting

/-!
# What becomes of every message

The other side follows a script of messages and faults of receiving, the clock shows whatever it
shows each time, and replies come from any handler.  Whatever operations an exchange is used for,
one after the other, each item of the script is read once, and what one operation leaves the next
one starts from.  Requests and notifications of the server are handed to the handler, whose reply is
sent before anything else is read.  Responses are never replied to, and only the response to the
request that is waiting ends the waiting.

## Main definitions

* `Scene` — a script, a clock and the memory of a handler, with what has happened.
* `Operation`, `Report` — what an exchange is used for, and what has come of it.
* `Scene.course` — operations, one after the other.
* `served` — what reading given items makes happen.
* `Answers`, `Drains` — what a request and a drain give, told by the items that they read.

## Main results

* `await_reads`, `drainFrom_reads` — what waiting and draining read.
* `course_faithful` — **no message is lost, read twice or answered twice.**
-/

namespace ClassOrder

variable {ρ τ : Type}

/-- What receiving comes to: a message, or a fault. -/
abbrev Item (τ : Type) : Type := Except (Fault τ) Message

/-- Something that happens between an exchange and the other side. -/
inductive Happening (τ : Type) where
  /-- A message is sent. -/
  | sent (m : Message)
  /-- An item of the script is read. -/
  | read (item : Item τ)

/-- The item that was read, if one was. -/
def Happening.item? : Happening τ → Option (Item τ)
  | sent _ => none
  | read item => some item

/-- A script, a clock and the memory of a handler, with what has happened. -/
structure Scene (ρ τ : Type) where
  /-- What has not been read yet. -/
  script : List (Item τ)
  /-- What the clock shows when it is looked at for the `k`-th time. -/
  ticks : Nat → τ
  /-- How often the clock has been looked at. -/
  looks : Nat := 0
  /-- The memory of the handler. -/
  memory : ρ
  /-- What has happened, in order. -/
  happenings : List (Happening τ) := []

/-- What makes replies: to a message of the server a reply, if one is due, and a new memory. -/
abbrev Handler (ρ : Type) : Type := ρ → Message → Option Message × ρ

namespace Scene

/-- What an exchange has to do with in a scene.  Sending always succeeds; when the script is over,
nothing comes any more. -/
def surroundings (handler : Handler ρ) : Surroundings (Scene ρ τ) τ where
  send m := .ofFun fun s => (.ok (), { s with happenings := s.happenings ++ [.sent m] })
  receive _ := .ofFun fun s =>
    match s.script with
    | [] => (.error Script.exhausted, s)
    | item :: rest =>
      (item, { s with script := rest, happenings := s.happenings ++ [.read item] })
  handle m := .ofFun fun s =>
    let (reply, memory) := handler s.memory m
    (.ok reply, { s with memory })
  look s := (s.ticks s.looks, { s with looks := s.looks + 1 })
  unread s := s.script.length
  note _ s := s

end Scene

/-! ### Operations -/

/-- What an exchange is used for. -/
inductive Operation (τ : Type) where
  | request (method : String) (params : Json) (timeout : Option τ)
  | notify (method : String) (params : Json)
  | drain (timeout : τ)

/-- What comes of an operation. -/
inductive Outcome (τ : Type) where
  /-- A request gives its result. -/
  | answered (r : Except (Fault τ) Json)
  /-- A notification gives nothing. -/
  | told (r : Except (Fault τ) Unit)
  /-- A drain gives the number of messages handled. -/
  | drained (r : Except (Fault τ) Nat)

namespace Operation

/-- Performs an operation. -/
def perform {σ : Type} [Timeline τ] (e : Surroundings σ τ) (x : Exchange τ) (s : σ) :
    Operation τ → Outcome τ × Exchange τ × σ
  | request method params timeout =>
    let (r, x, s) := e.request method params timeout x s
    (.answered r, x, s)
  | notify method params =>
    let (r, s) := (e.notify method params).apply s
    (.told r, x, s)
  | drain timeout =>
    let (r, s) := e.drain timeout s
    (.drained r, x, s)

/-- The message that an operation sends of its own, after the request with a given number. -/
def own? (lastId : Int) : Operation τ → Option Message
  | request method params _ => some (.request (.number (lastId + 1)) method params)
  | notify method params => some (.notification method params)
  | drain _ => none

/-- The number of the last request after an operation. -/
def lastIdAfter (lastId : Int) : Operation τ → Int
  | request .. => lastId + 1
  | notify .. | drain _ => lastId

end Operation

/-- An operation with what has come of it. -/
structure Report (τ : Type) where
  /-- The operation. -/
  op : Operation τ
  /-- What it gave. -/
  outcome : Outcome τ
  /-- What happened meanwhile, in order. -/
  happenings : List (Happening τ)

/-- The items of the script that an operation has read. -/
def Report.consumed (r : Report τ) : List (Item τ) := r.happenings.filterMap Happening.item?

/-- Operations, one after the other: the reports about them, and the scene that is left. -/
def Scene.course [Timeline τ] (handler : Handler ρ) :
    List (Operation τ) → Exchange τ → Scene ρ τ → List (Report τ) × Scene ρ τ
  | [], _, s => ([], s)
  | op :: ops, x, s =>
    let (outcome, x, s) := op.perform (surroundings handler) x { s with happenings := [] }
    let (reports, last) := course handler ops x s
    (⟨op, outcome, s.happenings⟩ :: reports, last)

/-! ### What should happen -/

/-- What handling an item comes to: a reply, if one is due, and a new memory.  Only requests and
notifications of the server are handed to the handler. -/
def handled (handler : Handler ρ) (memory : ρ) : Item τ → Option Message × ρ
  | .ok (.response ..) => (none, memory)
  | .ok m => handler memory m
  | .error _ => (none, memory)

/-- What reading items makes happen: each is read, and replied to before the next one is. -/
def served (handler : Handler ρ) : ρ → List (Item τ) → List (Happening τ)
  | _, [] => []
  | memory, item :: items =>
    .read item :: (handled handler memory item).1.toList.map .sent ++
      served handler (handled handler memory item).2 items

/-- The memory of the handler after items were read. -/
def memoryAfter (handler : Handler ρ) : ρ → List (Item τ) → ρ :=
  List.foldl fun memory item => (handled handler memory item).2

/-- Whether an item is a request or a notification of the server. -/
def isServerMessage : Item τ → Bool
  | .ok (.response ..) => false
  | .ok _ => true
  | .error _ => false

/-- None of the items is the response to the request `id`. -/
def Unanswered (id : MessageId) (items : List (Item τ)) : Prop :=
  ∀ result error, .ok (.response (some id) result error) ∉ items

/-- A time that no clock counts lets nothing be read. -/
def TooLong [Timeline τ] (timeout : τ) (items : List (Item τ)) (fault : Fault τ) : Prop :=
  Timeline.fits timeout = false ∧ items = [] ∧ fault = .timeTooLong

/-- What a request gives, told by the items read while it waited: what its response says, which is
the last one of them then, or else a fault, which was read last or says that the time was over. -/
def Answers [Timeline τ] (method : String) (id : MessageId) (timeout : τ) (items : List (Item τ))
    (r : Except (Fault τ) Json) : Prop :=
  (∃ before result error, items = before ++ [.ok (.response (some id) result error)] ∧
    Unanswered id before ∧ r = match error with
      | some e => .error (.refused method e)
      | none => .ok result) ∨
  Unanswered id items ∧ ∃ fault, r = .error fault ∧
    (fault.kind = .timeout ∨ items.getLast? = some (.error fault) ∨ TooLong timeout items fault)

/-- What a drain gives, told by the items that it read: how many messages of the server there were,
or a fault, which was read last and does not say that the time was over. -/
def Drains [Timeline τ] (timeout : τ) (items : List (Item τ)) (r : Except (Fault τ) Nat) : Prop :=
  r = .ok (items.countP isServerMessage) ∨ ∃ fault, r = .error fault ∧
    (items.getLast? = some (.error fault) ∧ fault.kind ≠ .timeout ∨ TooLong timeout items fault)

/-- What an operation should give, told by the items that it read. -/
def Operation.Gives [Timeline τ] (x : Exchange τ) (items : List (Item τ)) :
    Operation τ → Outcome τ → Prop
  | request method _ timeout, .answered r =>
    Answers method (.number (x.lastId + 1)) (timeout.getD x.requestTimeout) items r
  | notify _ _, .told r => items = [] ∧ r = .ok ()
  | drain timeout, .drained r => Drains timeout items r
  | _, _ => False

/-- How an exchange should go on after an operation: with the next number, if that was a request,
and with the same settings. -/
def Operation.Leads (op : Operation τ) (x y : Exchange τ) : Prop :=
  y = { x with lastId := op.lastIdAfter x.lastId, state := y.state }

/-- An operation has sent its own message, has served what it read and nothing else, and has given
what it should. -/
structure Report.Faithful [Timeline τ] (handler : Handler ρ) (x : Exchange τ) (memory : ρ)
    (r : Report τ) : Prop where
  happenings : r.happenings =
    (r.op.own? x.lastId).toList.map .sent ++ served handler memory r.consumed
  outcome : r.op.Gives x r.consumed r.outcome

/-- Operations one after the other were faithful, from a given exchange and a given memory of the
handler on. -/
inductive Faithful [Timeline τ] (handler : Handler ρ) :
    Exchange τ → ρ → List (Report τ) → Prop where
  | nil (x : Exchange τ) (memory : ρ) : Faithful handler x memory []
  | cons {x y : Exchange τ} {memory : ρ} {r : Report τ} {rs : List (Report τ)} :
    r.Faithful handler x memory → r.op.Leads x y →
    Faithful handler y (memoryAfter handler memory r.consumed) rs →
    Faithful handler x memory (r :: rs)

section

variable {handler : Handler ρ} {memory : ρ} {items more : List (Item τ)} {id : MessageId}

theorem served_append :
    served handler memory (items ++ more) =
      served handler memory items ++ served handler (memoryAfter handler memory items) more := by
  induction items generalizing memory with
  | nil => rfl
  | cons item items ih => simp [served, memoryAfter, ih]

theorem memoryAfter_append :
    memoryAfter handler memory (items ++ more) =
      memoryAfter handler (memoryAfter handler memory items) more :=
  List.foldl_append

/-- What was read is found again in what happened. -/
theorem filterMap_served : (served handler memory items).filterMap Happening.item? = items := by
  induction items generalizing memory with
  | nil => rfl
  | cons item items ih =>
    cases h : (handled handler memory item).1 <;>
      simp [served, List.filterMap_cons, Happening.item?, ih, h]

theorem isServerMessage_of_ne {m : Message}
    (h : ∀ rid result error, m = .response rid result error → False) :
    isServerMessage (.ok m : Item τ) = true := by
  cases m with
  | response rid result error => exact (h rid result error rfl).elim
  | request rid method params => rfl
  | notification method params => rfl

theorem Unanswered.cons {item : Item τ} (h : Unanswered id items)
    (hitem : ∀ result error, item ≠ .ok (.response (some id) result error)) :
    Unanswered id (item :: items) := by
  intro result error hmem
  rcases List.mem_cons.mp hmem with heq | hmem
  · exact hitem result error heq.symm
  · exact h result error hmem

end

/-! ### Reading -/

namespace Scene

variable {handler : Handler ρ} {s t u : Scene ρ τ} {items more : List (Item τ)}

/-- From one scene to the other just these items were read and served. -/
structure Reads (handler : Handler ρ) (items : List (Item τ)) (s t : Scene ρ τ) : Prop where
  script : s.script = items ++ t.script
  happenings : t.happenings = s.happenings ++ served handler s.memory items
  memory : t.memory = memoryAfter handler s.memory items

namespace Reads

theorem refl (s : Scene ρ τ) : Reads handler [] s s := ⟨rfl, (List.append_nil _).symm, rfl⟩

theorem trans (h : Reads handler items s t) (h' : Reads handler more t u) :
    Reads handler (items ++ more) s u where
  script := by rw [h.script, h'.script, List.append_assoc]
  happenings := by
    rw [h'.happenings, h.happenings, h.memory, served_append, List.append_assoc]
  memory := by rw [h'.memory, h.memory, memoryAfter_append]

/-- Looking at the clock reads nothing. -/
theorem of_look (h : Reads handler items { s with looks := s.looks + 1 } t) :
    Reads handler items s t := ⟨h.script, h.happenings, h.memory⟩

end Reads

theorem look_apply (s : Scene ρ τ) :
    (surroundings handler).look s = (s.ticks s.looks, { s with looks := s.looks + 1 }) := rfl

variable (handler) in
/-- Reading what the handler has nothing to do with. -/
theorem skip_reads {item : Item τ} {rest : List (Item τ)} (hscript : s.script = item :: rest)
    (hitem : isServerMessage item = false) :
    Reads handler [item] s
      { s with script := rest, happenings := s.happenings ++ [.read item] } := by
  have hhandled : handled handler s.memory item = (none, s.memory) := by
    rcases item with fault | m
    · rfl
    · cases m with
      | response rid result error => rfl
      | request rid method params => cases hitem
      | notification method params => cases hitem
  refine ⟨hscript, ?_, ?_⟩
  · simp [served, hhandled]
  · simp [memoryAfter, hhandled]

/-- A fault of receiving stands in the script, or the script is over. -/
theorem receive_error {timeout : τ} {fault : Fault τ}
    (hread : ((surroundings handler).receive timeout).apply s = (.error fault, t)) :
    ∃ items, Reads handler items s t ∧
      (items = [.error fault] ∨ items = [] ∧ fault.kind = .timeout) := by
  cases hscript : s.script with
  | nil =>
    simp only [surroundings, Action.apply_ofFun, hscript] at hread
    cases hread
    exact ⟨[], .refl s, .inr ⟨rfl, rfl⟩⟩
  | cons item rest =>
    simp only [surroundings, Action.apply_ofFun, hscript] at hread
    cases hread
    exact ⟨[.error fault], skip_reads handler hscript rfl, .inl rfl⟩

theorem receive_ok {timeout : τ} {m : Message}
    (hread : ((surroundings handler).receive timeout).apply s = (.ok m, t)) :
    ∃ rest, s.script = .ok m :: rest ∧
      t = { s with script := rest, happenings := s.happenings ++ [.read (.ok m)] } := by
  cases hscript : s.script with
  | nil =>
    simp only [surroundings, Action.apply_ofFun, hscript] at hread
    cases hread
  | cons item rest =>
    simp only [surroundings, Action.apply_ofFun, hscript] at hread
    cases hread
    exact ⟨rest, rfl, rfl⟩

variable (handler) in
/-- Reading a message of the server and replying to it. -/
theorem answer_reads {m : Message} {rest : List (Item τ)} (hscript : s.script = .ok m :: rest)
    (hm : isServerMessage (.ok m : Item τ) = true) :
    ∃ t, ((surroundings handler).answer m).apply
        { s with script := rest, happenings := s.happenings ++ [.read (.ok m)] } = (.ok (), t) ∧
      Reads handler [.ok m] s t := by
  have hhandled : handled handler s.memory (.ok m : Item τ) = handler s.memory m := by
    cases m with
    | response rid result error => cases hm
    | request rid method params => rfl
    | notification method params => rfl
  rw [Surroundings.answer, Action.apply_bind]
  simp only [surroundings, Action.apply_ofFun]
  rcases hreply : handler s.memory m with ⟨_ | reply, memory⟩
  · refine ⟨_, rfl, hscript, ?_, ?_⟩
    · simp [served, hhandled, hreply]
    · simp [memoryAfter, hhandled, hreply]
  · refine ⟨_, rfl, hscript, ?_, ?_⟩
    · simp [served, hhandled, hreply]
    · simp [memoryAfter, hhandled, hreply]

variable [Timeline τ]

/-- Waiting ended with the response to the request `id`, which was read last, or with none. -/
def Verdict (id : MessageId) (items : List (Item τ)) (ending : Ending τ) : Prop :=
  (∃ before result error, items = before ++ [.ok (.response (some id) result error)] ∧
    Unanswered id before ∧ ending = .ofResponse result error) ∨
  Unanswered id items ∧ (ending = .expired ∨ ending = .stalled ∨
    ∃ fault, ending = .failed fault ∧ items.getLast? = some (.error fault))

omit [Timeline τ] in
theorem Verdict.cons {id : MessageId} {item : Item τ} {ending : Ending τ}
    (h : Verdict id items ending)
    (hitem : ∀ result error, item ≠ .ok (.response (some id) result error)) :
    Verdict id (item :: items) ending := by
  rcases h with ⟨before, result, error, rfl, hbefore, hending⟩ | ⟨hnone, hending⟩
  · exact .inl ⟨item :: before, result, error, rfl, hbefore.cons hitem, hending⟩
  · refine .inr ⟨hnone.cons hitem, hending.imp_right (Or.imp_right ?_)⟩
    rintro ⟨fault, hfailed, hlast⟩
    exact ⟨fault, hfailed, by rw [List.getLast?_cons, hlast, Option.getD_some]⟩

variable (handler) in
/-- **What waiting for a response reads**: by induction on the messages that may still be read.
Every item but the last one was no response to this request, and was served before the next one
was read. -/
theorem await_reads (b : Bounds τ) (id : MessageId) (reads : Nat) (s : Scene ρ τ) :
    ∃ items, Reads handler items s ((surroundings handler).await b id reads s).2 ∧
      Verdict id items ((surroundings handler).await b id reads s).1 := by
  induction reads generalizing s with
  | zero => exact ⟨[], .refl s, .inr ⟨nofun, .inl rfl⟩⟩
  | succ reads ih =>
    rw [Surroundings.await, Surroundings.awaitRound, look_apply]
    dsimp only
    split
    · exact ⟨[], (Reads.refl _).of_look, .inr ⟨nofun, .inl rfl⟩⟩
    · split
      · next fault t heq =>
        -- whatever the fault means, it is not an answer
        obtain ⟨items, hreads, hitems⟩ := receive_error heq
        have hnone : Unanswered id items := by
          rcases hitems with rfl | ⟨rfl, -⟩ <;> simp [Unanswered]
        refine ⟨items, by split <;> exact hreads.of_look, .inr ⟨hnone, ?_⟩⟩
        split
        · split
          · exact .inr (.inl rfl)
          · exact .inl rfl
        · next hkind =>
          rcases hitems with rfl | ⟨-, hover⟩
          · exact .inr (.inr ⟨fault, rfl, rfl⟩)
          · exact absurd hover hkind
      · next rid result error t heq =>
        obtain ⟨rest, hscript, rfl⟩ := receive_ok heq
        have hreads := (skip_reads handler hscript rfl).of_look
        split
        · next hid =>
          subst hid
          exact ⟨_, hreads, .inl ⟨[], result, error, rfl, nofun, by cases error <;> rfl⟩⟩
        · next hid =>
          obtain ⟨items, hrest, hverdict⟩ := ih _
          refine ⟨_, hreads.trans hrest, hverdict.cons fun result' error' heq' => hid ?_⟩
          cases heq'
          rfl
      · next m t hm heq =>
        obtain ⟨rest, hscript, rfl⟩ := receive_ok heq
        have hserver := isServerMessage_of_ne (τ := τ) hm
        obtain ⟨t, hanswer, hreads⟩ := answer_reads handler hscript hserver
        rw [hanswer]
        obtain ⟨items, hrest, hverdict⟩ := ih t
        refine ⟨_, hreads.of_look.trans hrest, hverdict.cons fun result' error' heq' => ?_⟩
        cases heq'
        cases hserver

/-- What a drain gives that has dealt with `count` messages before it read the items. -/
def Tally (count : Nat) (items : List (Item τ)) (r : Except (Fault τ) Nat) : Prop :=
  r = .ok (count + items.countP isServerMessage) ∨
    ∃ fault, r = .error fault ∧ items.getLast? = some (.error fault) ∧ fault.kind ≠ .timeout

omit [Timeline τ] in
theorem Tally.cons {count next : Nat} {item : Item τ} {r : Except (Fault τ) Nat}
    (h : Tally next items r)
    (hnext : next = count + if isServerMessage item = true then 1 else 0) :
    Tally count (item :: items) r := by
  rcases h with rfl | ⟨fault, hr, hlast, hkind⟩
  · refine .inl ?_
    rw [hnext, List.countP_cons, Nat.add_assoc, Nat.add_comm (items.countP _)]
  · exact .inr ⟨fault, hr, by rw [List.getLast?_cons, hlast, Option.getD_some], hkind⟩

variable (handler) in
/-- **What a drain reads**, and how much of it the handler has dealt with. -/
theorem drainFrom_reads (start timeout : τ) (reads count : Nat) (s : Scene ρ τ) :
    ∃ items, Reads handler items s
        ((surroundings handler).drainFrom start timeout reads count s).2 ∧
      Tally count items ((surroundings handler).drainFrom start timeout reads count s).1 := by
  induction reads generalizing count s with
  | zero => exact ⟨[], .refl s, .inl rfl⟩
  | succ reads ih =>
    rw [Surroundings.drainFrom, Surroundings.drainRound, look_apply]
    dsimp only
    split
    · exact ⟨[], (Reads.refl _).of_look, .inl rfl⟩
    · split
      · next fault t heq =>
        obtain ⟨items, hreads, hitems⟩ := receive_error heq
        refine ⟨items, by split <;> exact hreads.of_look, ?_⟩
        split
        · -- a read that reports that its time is over ends the drain without a fault
          rcases hitems with rfl | ⟨rfl, -⟩ <;> exact .inl rfl
        · next hkind =>
          rcases hitems with rfl | ⟨-, hover⟩
          · exact .inr ⟨fault, rfl, rfl, hkind⟩
          · exact absurd hover hkind
      · next rid result error t heq =>
        obtain ⟨rest, hscript, rfl⟩ := receive_ok heq
        have hreads := (skip_reads handler hscript rfl).of_look
        obtain ⟨items, hrest, htally⟩ := ih count _
        exact ⟨_, hreads.trans hrest, htally.cons rfl⟩
      · next m t hm heq =>
        obtain ⟨rest, hscript, rfl⟩ := receive_ok heq
        have hserver := isServerMessage_of_ne (τ := τ) hm
        obtain ⟨t, hanswer, hreads⟩ := answer_reads handler hscript hserver
        rw [hanswer]
        obtain ⟨items, hrest, htally⟩ := ih (count + 1) t
        exact ⟨_, hreads.of_look.trans hrest, htally.cons (by rw [if_pos hserver])⟩

end Scene

/-! ### Operations, one after the other -/

open Scene

variable [Timeline τ] (handler : Handler ρ)

theorem Scene.Verdict.answers {id : MessageId} {items : List (Item τ)} {ending : Ending τ}
    (h : Verdict id items ending) (method : String) (timeout readTimeout : τ) :
    Answers method id timeout items (ending.outcome method timeout readTimeout) := by
  rcases h with ⟨before, result, error, hitems, hbefore, rfl⟩ |
    ⟨hnone, rfl | rfl | ⟨fault, rfl, hlast⟩⟩
  · exact .inl ⟨before, result, error, hitems, hbefore, by cases error <;> rfl⟩
  · exact .inr ⟨hnone, _, rfl, .inl rfl⟩
  · exact .inr ⟨hnone, _, rfl, .inl rfl⟩
  · exact .inr ⟨hnone, fault, rfl, .inr (.inl hlast)⟩

/-- What a request reads, which is read after the request was sent. -/
theorem request_reads (method : String) (params : Json) (timeout : Option τ) (x : Exchange τ)
    (s : Scene ρ τ) :
    let done := (surroundings handler).request method params timeout x s
    let id : MessageId := .number (x.lastId + 1)
    ∃ items, Reads handler items
        { s with happenings := s.happenings ++ [.sent (.request id method params)] } done.2.2 ∧
      Answers method id (timeout.getD x.requestTimeout) items done.1 ∧
      done.2.1 = { x with lastId := x.lastId + 1, state := done.2.1.state } := by
  intro done id
  let sent : Scene ρ τ :=
    { s with happenings := s.happenings ++ [.sent (.request id method params)] }
  let limit := timeout.getD x.requestTimeout
  have hdone : done =
      let (ending, t) : Ending τ × Scene ρ τ :=
        if Timeline.fits limit then
          (surroundings handler).await ⟨sent.ticks sent.looks, limit, x.readTimeout⟩ id
            (sent.script.length + 1) { sent with looks := sent.looks + 1 }
        else (.failed .timeTooLong, sent)
      (ending.outcome method limit x.readTimeout,
        { x with lastId := x.lastId + 1, state := ending.stateAfter }, t) := rfl
  rw [hdone]
  dsimp only
  split
  · obtain ⟨items, hreads, hverdict⟩ := await_reads handler
      ⟨sent.ticks sent.looks, limit, x.readTimeout⟩ id (sent.script.length + 1)
      { sent with looks := sent.looks + 1 }
    exact ⟨items, hreads.of_look, hverdict.answers _ _ _, rfl⟩
  · next hlong =>
    rw [Bool.not_eq_true] at hlong
    exact ⟨[], .refl sent, .inr ⟨nofun, .timeTooLong, rfl, .inr (.inr ⟨hlong, rfl, rfl⟩)⟩, rfl⟩

/-- What a drain reads. -/
theorem drain_reads (timeout : τ) (s : Scene ρ τ) :
    ∃ items, Reads handler items s ((surroundings handler).drain timeout s).2 ∧
      Drains timeout items ((surroundings handler).drain timeout s).1 := by
  rw [Surroundings.drain]
  split
  · obtain ⟨items, hreads, htally⟩ := drainFrom_reads handler (s.ticks s.looks)
      timeout (s.script.length + 1) 0 { s with looks := s.looks + 1 }
    refine ⟨items, hreads.of_look, ?_⟩
    rcases htally with hcount | ⟨fault, hfault, hlast, hkind⟩
    · exact .inl (hcount.trans (by rw [Nat.zero_add]))
    · exact .inr ⟨fault, hfault, .inl ⟨hlast, hkind⟩⟩
  · next hlong =>
    rw [Bool.not_eq_true] at hlong
    exact ⟨[], .refl s, .inr ⟨.timeTooLong, rfl, .inr ⟨hlong, rfl, rfl⟩⟩⟩

/-- **What an operation does**: it sends its own message and serves what it reads. -/
theorem perform_reads (op : Operation τ) (x : Exchange τ) (s : Scene ρ τ) :
    let done := op.perform (surroundings handler) x s
    ∃ items, Reads handler items
        { s with happenings := s.happenings ++ (op.own? x.lastId).toList.map .sent } done.2.2 ∧
      op.Gives x items done.1 ∧ op.Leads x done.2.1 := by
  cases op with
  | request method params timeout =>
    obtain ⟨items, hreads, hanswers, hleads⟩ :=
      request_reads handler method params timeout x s
    exact ⟨items, hreads, hanswers, hleads⟩
  | notify method params => exact ⟨[], .refl _, ⟨rfl, rfl⟩, rfl⟩
  | drain timeout =>
    obtain ⟨items, hreads, hdrains⟩ := drain_reads handler timeout s
    refine ⟨items, ?_, hdrains, rfl⟩
    -- a drain has nothing to say of its own
    have hown : s.happenings ++ ((Operation.drain timeout).own? x.lastId).toList.map .sent =
        s.happenings := List.append_nil _
    rw [hown]
    exact hreads

/-- **No message is lost, read twice or answered twice.**  Let the other side follow any script of
messages and faults of receiving, let the clock show anything, and let replies come from any
handler.  Whatever operations an exchange is used for, what they read, put together, is the script
from its beginning on.  One by one, each has sent its own message, then served what it read and sent
nothing else: every request and notification of the server has got the handler's reply, if there is
one, before the next item was read, and no response has got any.  A request that was answered has
read its response last, and the first one with its number; a message of the server with that number
is no response.  One that was not answered has failed with the fault that was read last, or because
its time was over.  A drain has given the number of messages handed to the handler, unless it has
failed with the fault that was read last. -/
theorem course_faithful (ops : List (Operation τ)) (x : Exchange τ)
    (s : Scene ρ τ) :
    let (reports, last) := s.course handler ops x
    reports.map (·.op) = ops ∧
      reports.flatMap (·.consumed) ++ last.script = s.script ∧
      Faithful handler x s.memory reports := by
  induction ops generalizing x s with
  | nil => exact ⟨rfl, rfl, .nil _ _⟩
  | cons op ops ih =>
    obtain ⟨items, hreads, hgives, hleads⟩ :=
      perform_reads handler op x { s with happenings := [] }
    rw [Scene.course]
    generalize op.perform (surroundings handler) x { s with happenings := [] } = done
      at hreads hgives hleads
    obtain ⟨outcome, y, t⟩ := done
    obtain ⟨hops, hconsumed, hfaithful⟩ := ih y t
    dsimp only at hreads hgives hleads hops hconsumed hfaithful ⊢
    -- each operation is told by a record of its own, which starts empty
    have hhappenings : t.happenings =
        (op.own? x.lastId).toList.map .sent ++ served handler s.memory items := by
      simpa using hreads.happenings
    have hitems : t.happenings.filterMap Happening.item? = items := by
      rw [hhappenings, List.filterMap_append, filterMap_served]
      cases op <;> rfl
    refine ⟨by simp [hops], ?_, .cons ⟨?_, ?_⟩ hleads ?_⟩
    · rw [List.flatMap_cons, List.append_assoc, hconsumed, Report.consumed, hitems]
      exact hreads.script.symm
    · rw [Report.consumed, hitems]
      exact hhappenings
    · rw [Report.consumed, hitems]
      exact hgives
    · rw [Report.consumed, hitems, ← hreads.memory]
      exact hfaithful

-- the server asks by the very number that the request has, and gets a null for an answer
example :
    let asks : Message := .request (.number 1) "ask" .null
    let answer : Message := .response (some (.number 1)) (.bool true) none
    let x : Exchange ℚ := { requestTimeout := 5, readTimeout := 5, preferences := .standard }
    let replies : Handler Unit := fun _ _ => (some (.response (some (.number 1)) .null none), ())
    let (reports, last) := Scene.course replies [.request "find" .null none] x
      { script := [.ok asks, .ok answer], ticks := fun _ => 0, memory := () }
    reports.map (·.happenings.length) = [4] ∧ last.script.length = 0 := by decide +kernel

end ClassOrder
