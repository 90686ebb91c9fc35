import ClassOrder.Proofs.Exchange.Rounds

/-!
# Which response a request gets

The other side follows a script of messages and faults of receiving, the clock shows anything, and
both sending a message and making a reply may fail.  A request gets the first response in the script
that has its number, if everything before it is passed over and each read begins with something left
of the time.  Everything else is a failure, told by what was read last.

## Main definitions

* `Ending.Plain` — an ending that passes on no fault that looks like one of the request's own.
* `Habits` — how messages are sent and replies are made, which may fail.
* `Habits.surroundings` — what an exchange has to do with then, in a scene.
* `Habits.Passed`, `Habits.Comes` — how far a request gets in the script.
* `Habits.Concludes` — how it ends, told by the script.

## Main results

* `Habits.Concludes.request_eq` — a request comes to what the script concludes.
* `request_correlates` — **a request gets its own response, and otherwise it fails.**
-/

namespace ClassOrder

variable {ρ τ : Type}

/-! ### What an ending says -/

namespace Ending

variable {ending : Ending τ} {method : String} {limit readTimeout : τ} {fault : Fault τ}

/-- An ending that passes on no fault that looks like one of the request's own. -/
def Plain (ending : Ending τ) : Prop :=
  ∀ fault, ending = .failed fault → fault.kind ≠ .domain ∧ fault.kind ≠ .timeout

theorem outcome_eq_ok_iff {result : Json} :
    ending.outcome method limit readTimeout = .ok result ↔ ending = .answered result := by
  cases ending <;> simp [outcome]

theorem Plain.outcome_eq_refused_iff (h : ending.Plain) {error : ErrorObject} :
    ending.outcome method limit readTimeout = .error (.refused method error) ↔
      ending = .refused error := by
  cases ending with
  | failed fault =>
    have hother : fault ≠ .refused method error := by
      rintro rfl
      exact (h _ rfl).1 rfl
    simp [outcome, hother]
  | answered | refused | expired | stalled => simp [outcome]

theorem outcome_eq_error (h : ending.outcome method limit readTimeout = .error fault) :
    (∃ error, fault = .refused method error) ∨ fault = .requestExpired method limit ∨
      fault = .requestStalled method readTimeout limit ∨ ending = .failed fault := by
  cases ending with
  | answered result => cases h
  | refused error =>
    cases h
    exact .inl ⟨error, rfl⟩
  | expired =>
    cases h
    exact .inr (.inl rfl)
  | stalled =>
    cases h
    exact .inr (.inr (.inl rfl))
  | failed fault =>
    cases h
    exact .inr (.inr (.inr rfl))

/-- The state of a request tells what came of it. -/
theorem Plain.stateAfter_eq (h : ending.Plain) :
    ending.stateAfter = match ending.outcome method limit readTimeout with
      | .ok _ => .completed
      | .error fault =>
        if fault.kind = .domain then .completed
        else if fault.kind = .timeout then .timedOut else .failed := by
  cases ending with
  | failed fault =>
    obtain ⟨hdomain, htimeout⟩ := h fault rfl
    simp only [outcome, stateAfter, if_neg hdomain, if_neg htimeout]
  | answered | refused | expired | stalled => rfl

/-- A report that the time is over tells the time of one read exactly if waiting stalled. -/
theorem Plain.of_timeout (h : ending.Plain)
    (houtcome : ending.outcome method limit readTimeout = .error fault)
    (hkind : fault.kind = .timeout) :
    fault.timeout? = some limit ∧
      ((fault.readTimeout? = some readTimeout ∧ ending = .stalled) ∨
        (fault.readTimeout? = none ∧ ending ≠ .stalled)) := by
  cases ending with
  | answered result => cases houtcome
  | refused error =>
    cases houtcome
    cases hkind
  | expired =>
    cases houtcome
    exact ⟨rfl, .inr ⟨rfl, by simp⟩⟩
  | stalled =>
    cases houtcome
    exact ⟨rfl, .inl ⟨rfl, rfl⟩⟩
  | failed fault =>
    cases houtcome
    exact absurd hkind (h fault rfl).2

end Ending

/-! ### The other side -/

/-- How messages are sent and replies to messages of the server are made: both may keep a memory
and both may fail. -/
structure Habits (ρ τ : Type) where
  /-- Sends a message. -/
  send : Message → Action ρ τ Unit
  /-- Makes the reply to a message of the server, if one is due. -/
  handle : Message → Action ρ τ (Option Message)

/-- What receiving comes to when a script is left, and what is left then of the script; when it is
over, nothing comes any more. -/
def nextItem : List (Item τ) → Item τ × List (Item τ)
  | [] => (.error Script.exhausted, [])
  | item :: rest => (item, rest)

namespace Habits

variable (h : Habits ρ τ)

/-- What is done about a message that is not waited for: a response is put aside, and the server
gets its reply. -/
def attend : Message → Action ρ τ Unit
  | .response .. => pure ()
  | m => do
    match ← h.handle m with
    | some reply => h.send reply
    | none => pure ()

/-- The same of messages, one after the other. -/
def attendAll : List Message → Action ρ τ Unit
  | [] => pure ()
  | m :: ms => do
    h.attend m
    attendAll ms

/-- What an action on the memory does in a scene. -/
def inScene {α : Type} (a : Action ρ τ α) : Action (Scene ρ τ) τ α :=
  .ofFun fun s =>
    let (r, memory) := a.apply s.memory
    (r, { s with memory })

/-- What an exchange has to do with in a scene. -/
def surroundings : Surroundings (Scene ρ τ) τ where
  send m := inScene (h.send m)
  receive _ := .ofFun fun s =>
    let (item, script) := nextItem s.script
    (item, { s with script })
  handle m := inScene (h.handle m)
  look s := (s.ticks s.looks, { s with looks := s.looks + 1 })
  unread s := s.script.length
  note _ s := s

end Habits

theorem nextItem_ok {script rest : List (Item τ)} {m : Message} :
    nextItem script = (.ok m, rest) ↔ script = .ok m :: rest := by
  cases script with
  | nil => simp [nextItem]
  | cons item script => simp [nextItem]

theorem Habits.dwindles (h : Habits ρ τ) : h.surroundings.Dwindles where
  send _ _ := Nat.le_refl _
  handle _ _ := Nat.le_refl _
  look _ := Nat.le_refl _
  note _ _ := Nat.le_refl _
  receive {time s m t} hread := by
    simp only [Habits.surroundings, Action.apply_ofFun] at hread ⊢
    obtain ⟨hitem, rfl⟩ := Prod.mk.inj hread
    have hnext : nextItem s.script = (.ok m, (nextItem s.script).2) := by rw [← hitem]
    rw [nextItem_ok] at hnext
    conv_rhs => rw [hnext]
    exact Nat.lt_succ_self _

/-! ### Told by the script -/

variable [Timeline τ]

/-- What is left of the time of a request when it looks at the clock for the `k`-th time after the
first: that was when it had been sent. -/
def Scene.leftAt (s : Scene ρ τ) (limit : τ) (k : Nat) : τ :=
  limit - (s.ticks (s.looks + 1 + k) - s.ticks s.looks)

namespace Habits

variable (h : Habits ρ τ) (request : Message) (id : MessageId) (limit : τ) (s : Scene ρ τ)

/-- A request is sent, and then the messages `before` are read and passed over, until `rest` is left
of the script: none of them is the response, each read begins with something left of the time, and
each message is attended to before the next read. -/
structure Passed (before : List Message) (rest : List (Item τ)) (memory : ρ) : Prop where
  script_eq : s.script = before.map .ok ++ rest
  others : ∀ m ∈ before, m.respondsTo id = false
  inTime : ∀ k < before.length, ¬ s.leftAt limit k ≤ 0
  attended : (do h.send request; h.attendAll before).apply s.memory = (.ok (), memory)

/-- The same, and the next read begins with something left of the time too. -/
structure Comes (before : List Message) (rest : List (Item τ)) (memory : ρ) : Prop extends
    h.Passed request id limit s before rest memory where
  lastInTime : ¬ s.leftAt limit before.length ≤ 0

/-- How a request ends, and what is left then of the script. -/
inductive Concludes (readTimeout : τ) : Ending τ → List (Item τ) → Prop where
  /-- It cannot be sent. -/
  | unsent {fault : Fault τ} (hsend : ((h.send request).apply s.memory).1 = .error fault) :
    Concludes readTimeout (.failed fault) s.script
  /-- Nothing is left of the time. -/
  | late {before : List Message} {rest : List (Item τ)} {memory : ρ}
    (hpassed : h.Passed request id limit s before rest memory)
    (hlate : s.leftAt limit before.length ≤ 0) : Concludes readTimeout .expired rest
  /-- The read gives up, and more was left than one read has. -/
  | stalled {before : List Message} {script rest : List (Item τ)} {memory : ρ} {fault : Fault τ}
    (hcomes : h.Comes request id limit s before script memory)
    (hnext : nextItem script = (.error fault, rest)) (hkind : fault.kind = .timeout)
    (hless : readTimeout < s.leftAt limit before.length) : Concludes readTimeout .stalled rest
  /-- The read gives up, and it had all that was left. -/
  | expired {before : List Message} {script rest : List (Item τ)} {memory : ρ} {fault : Fault τ}
    (hcomes : h.Comes request id limit s before script memory)
    (hnext : nextItem script = (.error fault, rest)) (hkind : fault.kind = .timeout)
    (hless : ¬ readTimeout < s.leftAt limit before.length) : Concludes readTimeout .expired rest
  /-- Reading fails. -/
  | lost {before : List Message} {script rest : List (Item τ)} {memory : ρ} {fault : Fault τ}
    (hcomes : h.Comes request id limit s before script memory)
    (hnext : nextItem script = (.error fault, rest)) (hkind : fault.kind ≠ .timeout) :
    Concludes readTimeout (.failed fault) rest
  /-- The response is read. -/
  | heard {before : List Message} {rest : List (Item τ)} {memory : ρ} {result : Json}
    {error : Option ErrorObject} (hcomes : h.Comes request id limit s before
      (.ok (.response (some id) result error) :: rest) memory) :
    Concludes readTimeout (.ofResponse result error) rest
  /-- Another message is read, and attending to it fails. -/
  | stuck {before : List Message} {rest : List (Item τ)} {memory : ρ} {m : Message}
    {fault : Fault τ} (hcomes : h.Comes request id limit s before (.ok m :: rest) memory)
    (hother : m.respondsTo id = false) (hattend : ((h.attend m).apply memory).1 = .error fault) :
    Concludes readTimeout (.failed fault) rest

end Habits

/-! ### One round -/

section

variable {h : Habits ρ τ} {b : Bounds τ} {id : MessageId} {s t : Scene ρ τ}

theorem Habits.reads_iff {left : τ} {item : Item τ} :
    h.surroundings.Reads b s left item t ↔ left = b.remaining (s.ticks s.looks) ∧ ¬ left ≤ 0 ∧
      item = (nextItem s.script).1 ∧
      t = { s with looks := s.looks + 1, script := (nextItem s.script).2 } := by
  constructor
  · rintro ⟨hleft, htime, hread⟩
    obtain ⟨hitem, ht⟩ := Prod.mk.inj hread
    exact ⟨hleft, htime, hitem.symm, ht.symm⟩
  · rintro ⟨hleft, htime, rfl, rfl⟩
    exact ⟨hleft, htime, rfl⟩

omit [Timeline τ] in
/-- Attending to a message concerns the memory alone. -/
theorem Habits.attend_surroundings (m : Message) :
    h.surroundings.attend m = inScene (h.attend m) := by
  funext s
  change (h.surroundings.attend m).apply s = (inScene (h.attend m)).apply s
  have hanswer (m : Message) : (h.surroundings.answer m).apply s =
      (inScene (do match ← h.handle m with
        | some reply => h.send reply
        | none => pure ()) : Action (Scene ρ τ) τ Unit).apply s := by
    rw [Surroundings.answer, Action.apply_bind, inScene, Action.apply_ofFun, Action.apply_bind]
    simp only [surroundings, inScene, Action.apply_ofFun]
    rcases (h.handle m).apply s.memory with ⟨fault | _ | reply, memory⟩ <;> rfl
  cases m with
  | response rid result error => rfl
  | request rid method params => exact hanswer _
  | notification method params => exact hanswer _

omit [Timeline τ] in
theorem Habits.attend_apply (m : Message) (s : Scene ρ τ) :
    (h.surroundings.attend m).apply s = (((h.attend m).apply s.memory).1,
      { s with memory := ((h.attend m).apply s.memory).2 }) := by
  rw [attend_surroundings]
  rfl

/-! ### All rounds -/

/-- One message is passed over. -/
theorem Habits.passes_cons_iff {m : Message} {ms : List Message} :
    h.surroundings.Passes b id s (m :: ms) t ↔ ∃ rest memory, s.script = .ok m :: rest ∧
      ¬ b.remaining (s.ticks s.looks) ≤ 0 ∧ m.respondsTo id = false ∧
      (h.attend m).apply s.memory = (.ok (), memory) ∧ h.surroundings.Passes b id
        { s with script := rest, looks := s.looks + 1, memory } ms t := by
  constructor
  · rintro (_ | ⟨hread, hother, hattend, hrest⟩)
    obtain ⟨rfl, hleft, hitem, rfl⟩ := reads_iff.mp hread
    rw [attend_apply] at hattend
    obtain ⟨hgives, rfl⟩ := Prod.mk.inj hattend
    exact ⟨_, _, nextItem_ok.mp (Prod.ext hitem.symm rfl), hleft, hother, Prod.ext hgives rfl,
      hrest⟩
  · rintro ⟨rest, memory, hscript, hleft, hother, hattend, hrest⟩
    have hread : h.surroundings.Reads b s (b.remaining (s.ticks s.looks)) (.ok m)
        { s with looks := s.looks + 1, script := rest } := by
      rw [reads_iff, nextItem_ok.mpr hscript]
      exact ⟨rfl, hleft, rfl, rfl⟩
    refine .cons hread hother ?_ hrest
    rw [attend_apply, hattend]

/-- **What passing over messages leads to**: by induction on the messages. -/
theorem Habits.passes_iff {ms : List Message} :
    h.surroundings.Passes b id s ms t ↔
      (s.script = ms.map .ok ++ t.script ∧ (∀ m ∈ ms, m.respondsTo id = false) ∧
        (∀ k < ms.length, ¬ b.remaining (s.ticks (s.looks + k)) ≤ 0) ∧
        (h.attendAll ms).apply s.memory = (.ok (), t.memory)) ∧
      t = { s with script := t.script, looks := s.looks + ms.length, memory := t.memory } := by
  induction ms generalizing s with
  | nil =>
    constructor
    · rintro ⟨⟩
      exact ⟨⟨rfl, nofun, nofun, rfl⟩, rfl⟩
    · rintro ⟨⟨hscript, -, -, hattend⟩, ht⟩
      have hmemory : t.memory = s.memory := (Prod.mk.inj hattend).2.symm
      rw [show t.script = s.script from hscript.symm, hmemory] at ht
      rw [ht]
      exact .nil s
  | cons m ms ih =>
    rw [passes_cons_iff]
    constructor
    · rintro ⟨rest, memory, hscript, hleft, hother, hattend, hrest⟩
      obtain ⟨⟨hrest, hothers, htime, hattended⟩, ht⟩ := ih.mp hrest
      refine ⟨⟨?_, ?_, ?_, ?_⟩, ?_⟩
      · exact hscript.trans (congrArg _ hrest)
      · exact List.forall_mem_cons.mpr ⟨hother, hothers⟩
      · -- the first look is at this state, and every other one is one look later
        intro k hk
        cases k with
        | zero => exact hleft
        | succ k =>
          have := htime k (Nat.lt_of_succ_lt_succ hk)
          rwa [Nat.add_assoc, Nat.add_comm 1] at this
      · rw [attendAll, Action.apply_bind, hattend]
        exact hattended
      · rw [ht, List.length_cons, Nat.add_comm ms.length, ← Nat.add_assoc]
    · rintro ⟨⟨hscript, hothers, htime, hattended⟩, ht⟩
      rw [attendAll] at hattended
      obtain ⟨⟨⟩, memory, hattend, hattended⟩ := Action.apply_bind_eq_ok.mp hattended
      obtain ⟨hother, hothers⟩ := List.forall_mem_cons.mp hothers
      refine ⟨_, memory, hscript, htime 0 (Nat.succ_pos _), hother, hattend,
        ih.mpr ⟨⟨rfl, hothers, fun k hk => ?_, hattended⟩, ?_⟩⟩
      · have := htime (k + 1) (Nat.succ_lt_succ hk)
        rwa [← Nat.add_assoc, Nat.add_right_comm] at this
      · rw [ht, List.length_cons, Nat.add_comm ms.length, ← Nat.add_assoc]

end

/-! ### Requests -/

/-- The scene when a request has been sent and `count` messages have been read since. -/
def Scene.onward (s : Scene ρ τ) (count : Nat) (script : List (Item τ)) (memory : ρ) :
    Scene ρ τ :=
  { s with script, looks := s.looks + 1 + count, memory }

section

variable {h : Habits ρ τ} {request : Message} {id : MessageId} {limit readTimeout : τ}
  {s v : Scene ρ τ} {before : List Message} {script rest : List (Item τ)} {memory : ρ}
  {ending : Ending τ}

/-- Getting so far in the script is passing over messages. -/
theorem Habits.passed_iff : h.Passed request id limit s before rest memory ↔
    ∃ first, (h.send request).apply s.memory = (.ok (), first) ∧
      h.surroundings.Passes ⟨s.ticks s.looks, limit, readTimeout⟩ id (s.onward 0 s.script first)
        before (s.onward before.length rest memory) := by
  constructor
  · rintro ⟨hscript, hothers, htime, hattended⟩
    obtain ⟨⟨⟩, first, hsend, hattended⟩ := Action.apply_bind_eq_ok.mp hattended
    exact ⟨first, hsend, passes_iff.mpr ⟨⟨hscript, hothers, htime, hattended⟩, rfl⟩⟩
  · rintro ⟨first, hsend, hpasses⟩
    obtain ⟨⟨hscript, hothers, htime, hattended⟩, -⟩ := passes_iff.mp hpasses
    exact ⟨hscript, hothers, htime, Action.apply_bind_eq_ok.mpr ⟨(), first, hsend, hattended⟩⟩

/-- How the last round ends is what the script concludes. -/
theorem Habits.Passed.concludes (hpassed : h.Passed request id limit s before script memory)
    (hends : h.surroundings.Ends ⟨s.ticks s.looks, limit, readTimeout⟩ id
      (s.onward before.length script memory) ending v) :
    h.Concludes request id limit s readTimeout ending v.script := by
  cases hends with
  | late hlate => exact .late hpassed hlate
  | stalled hread hkind hless =>
    obtain ⟨rfl, hleft, hitem, rfl⟩ := reads_iff.mp hread
    exact .stalled ⟨hpassed, hleft⟩ (Prod.ext hitem.symm rfl) hkind hless
  | expired hread hkind hless =>
    obtain ⟨rfl, hleft, hitem, rfl⟩ := reads_iff.mp hread
    exact .expired ⟨hpassed, hleft⟩ (Prod.ext hitem.symm rfl) hkind hless
  | lost hread hkind =>
    obtain ⟨rfl, hleft, hitem, rfl⟩ := reads_iff.mp hread
    exact .lost ⟨hpassed, hleft⟩ (Prod.ext hitem.symm rfl) hkind
  | heard hread =>
    obtain ⟨rfl, hleft, hitem, rfl⟩ := reads_iff.mp hread
    have hscript : script = _ :: _ := nextItem_ok.mp (Prod.ext hitem.symm rfl)
    rw [hscript] at hpassed
    exact .heard ⟨hpassed, hleft⟩
  | stuck hread hother hattend =>
    obtain ⟨rfl, hleft, hitem, rfl⟩ := reads_iff.mp hread
    have hscript : script = _ :: _ := nextItem_ok.mp (Prod.ext hitem.symm rfl)
    rw [hscript] at hpassed
    rw [attend_apply] at hattend
    obtain ⟨hgives, rfl⟩ := Prod.mk.inj hattend
    exact .stuck ⟨hpassed, hleft⟩ hother hgives

/-- What comes next is what is read next. -/
theorem Habits.Comes.reads {item : Item τ}
    (hcomes : h.Comes request id limit s before script memory)
    (hnext : nextItem script = (item, rest)) :
    h.surroundings.Reads ⟨s.ticks s.looks, limit, readTimeout⟩
      (s.onward before.length script memory) (s.leftAt limit before.length) item
      (s.onward (before.length + 1) rest memory) := by
  refine reads_iff.mpr ⟨rfl, hcomes.lastInTime, ?_, ?_⟩
  · exact (congrArg Prod.fst hnext).symm
  · rw [show (s.onward before.length script memory).script = script from rfl, hnext]
    rfl

/-- What the script concludes is how the last round ends, if the request is sent. -/
theorem Habits.Concludes.ends
    (hconcludes : h.Concludes request id limit s readTimeout ending rest) :
    (∃ fault, ((h.send request).apply s.memory).1 = .error fault ∧ ending = .failed fault ∧
        rest = s.script) ∨
      ∃ before script memory v, h.Passed request id limit s before script memory ∧
        h.surroundings.Ends ⟨s.ticks s.looks, limit, readTimeout⟩ id
          (s.onward before.length script memory) ending v ∧ v.script = rest := by
  cases hconcludes with
  | unsent hsend => exact .inl ⟨_, hsend, rfl, rfl⟩
  | late hpassed hlate => exact .inr ⟨_, _, _, _, hpassed, .late hlate, rfl⟩
  | stalled hcomes hnext hkind hless =>
    exact .inr ⟨_, _, _, _, hcomes.toPassed, .stalled (hcomes.reads hnext) hkind hless, rfl⟩
  | expired hcomes hnext hkind hless =>
    exact .inr ⟨_, _, _, _, hcomes.toPassed, .expired (hcomes.reads hnext) hkind hless, rfl⟩
  | lost hcomes hnext hkind =>
    exact .inr ⟨_, _, _, _, hcomes.toPassed, .lost (hcomes.reads hnext) hkind, rfl⟩
  | heard hcomes =>
    exact .inr ⟨_, _, _, _, hcomes.toPassed, .heard (hcomes.reads rfl), rfl⟩
  | @stuck before _ memory m fault hcomes hother hattend =>
    have hstuck := attend_apply (h := h) m (s.onward (before.length + 1) rest memory)
    rw [show (s.onward (before.length + 1) rest memory).memory = memory from rfl, hattend] at hstuck
    exact .inr ⟨_, _, _, _, hcomes.toPassed, .stuck (hcomes.reads rfl) hother hstuck, rfl⟩

/-- No two endings are concluded: both would be what waiting comes to. -/
theorem Habits.Concludes.unique {ending' : Ending τ} {rest' : List (Item τ)}
    (hconcludes : h.Concludes request id limit s readTimeout ending rest)
    (hconcludes' : h.Concludes request id limit s readTimeout ending' rest') :
    ending = ending' := by
  have hsent {before : List Message} {script : List (Item τ)} {memory : ρ} {fault : Fault τ}
      (hpassed : h.Passed request id limit s before script memory)
      (hsend : ((h.send request).apply s.memory).1 = .error fault) : False := by
    obtain ⟨⟨⟩, first, hsend', -⟩ := Action.apply_bind_eq_ok.mp hpassed.attended
    rw [hsend'] at hsend
    cases hsend
  rcases hconcludes.ends with ⟨fault, hsend, rfl, -⟩ |
    ⟨before, script, memory, v, hpassed, hends, -⟩ <;>
  rcases hconcludes'.ends with ⟨fault', hsend', rfl, -⟩ |
    ⟨before', script', memory', v', hpassed', hends', -⟩
  · rw [Except.error.inj (hsend.symm.trans hsend')]
  · exact (hsent hpassed' hsend).elim
  · exact (hsent hpassed hsend').elim
  · obtain ⟨first, hsend, hpasses⟩ := passed_iff.mp hpassed
    obtain ⟨first', hsend', hpasses'⟩ := passed_iff.mp hpassed'
    obtain rfl : first = first' := (Prod.mk.inj (hsend.symm.trans hsend')).2
    have hawait := (await_eq_iff h.dwindles).mpr ⟨before, _, hpasses, hends⟩
    have hawait' := (await_eq_iff h.dwindles).mpr ⟨before', _, hpasses', hends'⟩
    exact (Prod.mk.inj (hawait.symm.trans hawait')).1

/-- There is always something to conclude. -/
theorem Habits.exists_concludes (h : Habits ρ τ) (request : Message) (id : MessageId)
    (limit readTimeout : τ) (s : Scene ρ τ) :
    ∃ ending rest, h.Concludes request id limit s readTimeout ending rest := by
  rcases hsend : (h.send request).apply s.memory with ⟨fault | ⟨⟩, first⟩
  · exact ⟨_, _, .unsent (congrArg Prod.fst hsend)⟩
  · obtain ⟨before, t, ending, v, hpasses, hends⟩ :=
      exists_passes_ends ⟨s.ticks s.looks, limit, readTimeout⟩ id h.dwindles
        (s.onward 0 s.script first)
    have ht : t = s.onward before.length t.script t.memory := (passes_iff.mp hpasses).2
    rw [ht] at hpasses hends
    exact ⟨ending, v.script, (passed_iff.mpr ⟨first, hsend, hpasses⟩).concludes hends⟩

/-- **A request comes to what the script concludes**, if its time can be counted. -/
theorem Habits.Concludes.request_eq {method : String} {params : Json} {timeout : Option τ}
    {x : Exchange τ} (hfits : Timeline.fits (timeout.getD x.requestTimeout) = true)
    (hconcludes : h.Concludes (.request (.number (x.lastId + 1)) method params)
      (.number (x.lastId + 1)) (timeout.getD x.requestTimeout) s x.readTimeout ending rest) :
    let done := h.surroundings.request method params timeout x s
    done.1 = ending.outcome method (timeout.getD x.requestTimeout) x.readTimeout ∧
      done.2.1 = { x with lastId := x.lastId + 1, state := ending.stateAfter } ∧
      done.2.2.script = rest := by
  rcases hconcludes.ends with ⟨fault, hsend, rfl, rfl⟩ |
    ⟨before, script, memory, v, hpassed, hends, rfl⟩
  · have hunsent : (h.surroundings.ask (x.lastId + 1) method params).apply s = (.error fault, _) :=
      Prod.ext hsend rfl
    rw [request_of_not_sent h.surroundings hunsent]
    exact ⟨rfl, rfl, rfl⟩
  · obtain ⟨first, hsend, hpasses⟩ := passed_iff.mp hpassed
    have hawait := (await_eq_iff h.dwindles).mpr ⟨before, _, hpasses, hends⟩
    have hsent : (h.surroundings.ask (x.lastId + 1) method params).apply s =
        (.ok (), { s with memory := first }) := by
      simp only [ask_apply, surroundings, inScene, Action.apply_ofFun, hsend]
    rw [request_of_sent h.surroundings hsent hfits]
    have hlook : h.surroundings.look { s with memory := first } =
        (s.ticks s.looks, s.onward 0 s.script first) := rfl
    simp only [hlook, hawait, and_self]

/-! ### Endings -/

/-- Only the response ends waiting with an answer. -/
theorem Habits.Concludes.of_isAnswer
    (hconcludes : h.Concludes request id limit s readTimeout ending rest)
    (hanswer : ending.isAnswer = true) : ∃ before memory result error,
      ending = .ofResponse result error ∧ h.Comes request id limit s before
        (.ok (.response (some id) result error) :: rest) memory := by
  cases hconcludes with
  | heard hcomes => exact ⟨_, _, _, _, rfl, hcomes⟩
  | unsent | late | stalled | expired | lost | stuck => cases hanswer

theorem Habits.concludes_answered_iff {result : Json} :
    h.Concludes request id limit s readTimeout (.answered result) rest ↔
      ∃ before memory, h.Comes request id limit s before
        (.ok (.response (some id) result none) :: rest) memory := by
  constructor
  · intro hconcludes
    obtain ⟨before, memory, result', error, hending, hcomes⟩ := hconcludes.of_isAnswer rfl
    cases error <;> cases hending
    exact ⟨before, memory, hcomes⟩
  · rintro ⟨before, memory, hcomes⟩
    exact .heard hcomes

theorem Habits.concludes_refused_iff {error : ErrorObject} :
    h.Concludes request id limit s readTimeout (.refused error) rest ↔
      ∃ before result memory, h.Comes request id limit s before
        (.ok (.response (some id) result (some error)) :: rest) memory := by
  constructor
  · intro hconcludes
    obtain ⟨before, memory, result, error', hending, hcomes⟩ := hconcludes.of_isAnswer rfl
    cases error' <;> cases hending
    exact ⟨before, result, memory, hcomes⟩
  · rintro ⟨before, result, memory, hcomes⟩
    exact .heard hcomes

/-- A read gives up while a request waits, and more was left of its time than one read has. -/
def Habits.Stalls (h : Habits ρ τ) (request : Message) (id : MessageId) (limit readTimeout : τ)
    (s : Scene ρ τ) (rest : List (Item τ)) : Prop :=
  ∃ before script memory fault, h.Comes request id limit s before script memory ∧
    nextItem script = (.error fault, rest) ∧ fault.kind = .timeout ∧
      readTimeout < s.leftAt limit before.length

theorem Habits.concludes_stalled_iff :
    h.Concludes request id limit s readTimeout .stalled rest ↔
      h.Stalls request id limit readTimeout s rest := by
  constructor
  · intro hconcludes
    generalize hending : (.stalled : Ending τ) = ending at hconcludes
    cases hconcludes with
    | stalled hcomes hnext hkind hless => exact ⟨_, _, _, _, hcomes, hnext, hkind, hless⟩
    | @heard _ _ _ result error => cases error <;> cases hending
    | unsent | late | expired | lost | stuck => cases hending
  · rintro ⟨before, script, memory, fault, hcomes, hnext, hkind, hless⟩
    exact .stalled hcomes hnext hkind hless

omit [Timeline τ] in
/-- A fault that is no want of time is an item of the script. -/
theorem eq_cons_of_nextItem {script : List (Item τ)} {fault : Fault τ}
    (hnext : nextItem script = (.error fault, rest)) (hkind : fault.kind ≠ .timeout) :
    script = .error fault :: rest := by
  cases script with
  | nil =>
    cases hnext
    exact absurd rfl hkind
  | cons item script =>
    cases hnext
    rfl

/-- The fault of the one thing that failed: sending the request, receiving, or attending to another
message. -/
def Habits.Propagates (h : Habits ρ τ) (request : Message) (id : MessageId) (limit : τ)
    (s : Scene ρ τ) (fault : Fault τ) : Prop :=
  ((h.send request).apply s.memory).1 = .error fault ∨
    (∃ before rest memory, h.Comes request id limit s before (.error fault :: rest) memory) ∨
      ∃ before m rest memory, h.Comes request id limit s before (.ok m :: rest) memory ∧
        m.respondsTo id = false ∧ ((h.attend m).apply memory).1 = .error fault

theorem Habits.Concludes.of_failed {fault : Fault τ}
    (hconcludes : h.Concludes request id limit s readTimeout (.failed fault) rest) :
    h.Propagates request id limit s fault := by
  generalize hending : Ending.failed fault = ending at hconcludes
  cases hconcludes with
  | unsent hsend =>
    cases hending
    exact .inl hsend
  | lost hcomes hnext hkind =>
    cases hending
    exact .inr (.inl ⟨_, _, _, eq_cons_of_nextItem hnext hkind ▸ hcomes⟩)
  | stuck hcomes hother hattend =>
    cases hending
    exact .inr (.inr ⟨_, _, _, _, hcomes, hother, hattend⟩)
  | @heard _ _ _ result error => cases error <;> cases hending
  | late | stalled | expired => cases hending

/-- Sending and making replies fail for reasons of their own: neither with an error that a server
answered with nor because the time is over. -/
structure Habits.Mild (h : Habits ρ τ) : Prop where
  send : ∀ {m memory fault}, ((h.send m).apply memory).1 = .error fault →
    fault.kind ≠ .domain ∧ fault.kind ≠ .timeout
  handle : ∀ {m memory fault}, ((h.handle m).apply memory).1 = .error fault →
    fault.kind ≠ .domain ∧ fault.kind ≠ .timeout

omit [Timeline τ] in
theorem Habits.Mild.attend (hmild : h.Mild) {m : Message} {fault : Fault τ}
    (hattend : ((h.attend m).apply memory).1 = .error fault) :
    fault.kind ≠ .domain ∧ fault.kind ≠ .timeout := by
  have hanswer (m : Message) (hfails : ((do match ← h.handle m with
        | some reply => h.send reply
        | none => pure () : Action ρ τ Unit).apply memory).1 = .error fault) :
      fault.kind ≠ .domain ∧ fault.kind ≠ .timeout := by
    rw [Action.apply_bind] at hfails
    rcases hhandle : (h.handle m).apply memory with ⟨cause | _ | reply, after⟩
    · rw [hhandle] at hfails
      obtain rfl : cause = fault := Except.error.inj hfails
      exact hmild.handle (congrArg Prod.fst hhandle)
    · rw [hhandle] at hfails
      cases hfails
    · rw [hhandle] at hfails
      exact hmild.send hfails
  cases m with
  | response rid result error => cases hattend
  | request rid method params => exact hanswer _ hattend
  | notification method params => exact hanswer _ hattend

/-- No failure that is passed on looks like one of the request's own. -/
theorem Habits.Concludes.mild (hmild : h.Mild)
    (hscript : ∀ fault, .error fault ∈ s.script → fault.kind ≠ .domain) {fault : Fault τ}
    (hconcludes : h.Concludes request id limit s readTimeout (.failed fault) rest) :
    fault.kind ≠ .domain ∧ fault.kind ≠ .timeout := by
  generalize hending : Ending.failed fault = ending at hconcludes
  cases hconcludes with
  | unsent hsend =>
    cases hending
    exact hmild.send hsend
  | lost hcomes hnext hkind =>
    cases hending
    refine ⟨hscript fault ?_, hkind⟩
    rw [hcomes.script_eq, eq_cons_of_nextItem hnext hkind]
    simp
  | stuck hcomes hother hattend =>
    cases hending
    exact hmild.attend hattend
  | @heard _ _ _ result error => cases error <;> cases hending
  | late | stalled | expired => cases hending

end

/-! ### The whole -/

/-- **A request gets its own response, and otherwise it fails.**  Let the other side follow any
script of messages and faults of receiving, none of which is an error that a server answered with;
let the clock show anything each time; let sending a message and making a reply do anything, and
fail with anything but such errors and want of time; and let a request have any time that can be
counted, and a read any time.

The request gives a result exactly if the items of the script that it reads end with the response
that has its number and that result, and everything before it was passed over: messages of the
server, replied to, and responses with other numbers, texts or nothing for identifiers; each read
beginning with something left of the time.  It is refused exactly if the response read like that
holds the error.  Otherwise its time is over, or it fails with the very fault with which sending it,
receiving, or attending to a message failed.  In the first two cases it is completed afterwards;
when its time is over it is timed out, and after any other fault it is failed; it is never left
waiting.  The report that the time is over tells the time that one read was allowed exactly if a
read gave up when more than that was left. -/
theorem request_correlates (h : Habits ρ τ) (hmild : h.Mild) (x : Exchange τ) (method : String)
    (params : Json) (timeout : Option τ) (s : Scene ρ τ)
    (hscript : ∀ fault, .error fault ∈ s.script → fault.kind ≠ .domain)
    (hfits : Timeline.fits (timeout.getD x.requestTimeout) = true) :
    let limit := timeout.getD x.requestTimeout
    let id : MessageId := .number (x.lastId + 1)
    let request : Message := .request id method params
    let done := h.surroundings.request method params timeout x s
    let left := done.2.2.script
    (∀ result, done.1 = .ok result ↔ ∃ before memory, h.Comes request id limit s before
      (.ok (.response (some id) result none) :: left) memory) ∧
    (∀ error, done.1 = .error (.refused method error) ↔ ∃ before result memory,
      h.Comes request id limit s before
        (.ok (.response (some id) result (some error)) :: left) memory) ∧
    (∀ fault, done.1 = .error fault → (∃ error, fault = .refused method error) ∨
      fault = .requestExpired method limit ∨
      fault = .requestStalled method x.readTimeout limit ∨
      h.Propagates request id limit s fault) ∧
    (done.2.1.state = match done.1 with
      | .ok _ => .completed
      | .error fault =>
        if fault.kind = .domain then .completed
        else if fault.kind = .timeout then .timedOut else .failed) ∧
    ∀ fault, done.1 = .error fault → fault.kind = .timeout →
      fault.timeout? = some limit ∧
        ((fault.readTimeout? = some x.readTimeout ∧
            h.Stalls request id limit x.readTimeout s left) ∨
          (fault.readTimeout? = none ∧ ¬ h.Stalls request id limit x.readTimeout s left)) := by
  intro limit id request done left
  obtain ⟨ending, rest, hconcludes⟩ :=
    h.exists_concludes request id limit x.readTimeout s
  obtain ⟨houtcome, hstate, rfl⟩ : done.1 = ending.outcome method limit x.readTimeout ∧
      done.2.1 = { x with lastId := x.lastId + 1, state := ending.stateAfter } ∧ left = rest :=
    hconcludes.request_eq hfits
  -- one ending is concluded and no other
  have hiff (other : Ending τ) : ending = other ↔
      h.Concludes request id limit s x.readTimeout other left :=
    ⟨fun heq => heq ▸ hconcludes, hconcludes.unique⟩
  have hplain : ending.Plain := fun fault hending => (hending ▸ hconcludes).mild hmild hscript
  refine ⟨fun result => ?_, fun error => ?_, fun fault hfault => ?_, ?_,
    fun fault hfault hkind => ?_⟩
  · rw [houtcome, Ending.outcome_eq_ok_iff, hiff, Habits.concludes_answered_iff]
  · rw [houtcome, hplain.outcome_eq_refused_iff, hiff, Habits.concludes_refused_iff]
  · rw [houtcome] at hfault
    rcases Ending.outcome_eq_error hfault with hrefused | hexpired | hstalled | rfl
    · exact .inl hrefused
    · exact .inr (.inl hexpired)
    · exact .inr (.inr (.inl hstalled))
    · exact .inr (.inr (.inr hconcludes.of_failed))
  · rw [houtcome, hstate]
    exact hplain.stateAfter_eq
  · rw [houtcome] at hfault
    rw [← Habits.concludes_stalled_iff, ← hiff]
    exact hplain.of_timeout hfault hkind

/-- A side that counts what it sends and answers every request with null. -/
def countingHabits : Habits Nat ℚ where
  send _ := .ofFun fun count => (.ok (), count + 1)
  handle m := .ofFun fun count => (.ok (match m with
    | .request id _ _ => some (.response (some id) .null none)
    | .notification .. | .response .. => none), count)

theorem mild_countingHabits : countingHabits.Mild := ⟨nofun, nofun⟩

/-- A side that asks by the number of the request itself, tells something, and answers what nobody
waits for by a text, by nothing and at last by the number; half a second goes by each time. -/
def windingScene : Scene Nat ℚ where
  script := [.ok (.request (.number 1) "ask" .null), .ok (.notification "tell" .null),
    .ok (.response (some (.text "1")) .null none), .ok (.response none .null none),
    .ok (.response (some (.number 1)) (.bool true) none), .error .outputClosed]
  ticks k := k / 2
  memory := 0

/-- An exchange that waits three seconds for a response and two seconds for a message. -/
def briefExchange : Exchange ℚ :=
  { requestTimeout := 3, readTimeout := 2, preferences := .standard }

theorem request_correlates_windingScene :
    countingHabits.Mild ∧
      (∀ fault, .error fault ∈ windingScene.script → fault.kind ≠ .domain) ∧
      Timeline.fits (none.getD briefExchange.requestTimeout) = true ∧
      ∃ result before left memory,
        (countingHabits.surroundings.request "find" .null none briefExchange windingScene).1 =
            .ok result ∧
          countingHabits.Comes (.request (.number 1) "find" .null) (.number 1) 3 windingScene before
            (.ok (.response (some (.number 1)) result none) :: left) memory := by
  have hscript : ∀ fault, .error fault ∈ windingScene.script → fault.kind ≠ .domain := by
    intro fault hfault
    simp only [windingScene, List.mem_cons, reduceCtorEq, Except.error.injEq, List.not_mem_nil,
      or_false, false_or] at hfault
    rw [hfault]
    nofun
  have hanswered : (countingHabits.surroundings.request "find" .null none briefExchange
      windingScene).1.isOk = true := by decide +kernel
  have hcorrelates := (request_correlates countingHabits mild_countingHabits briefExchange "find"
    .null none windingScene hscript rfl).1
  refine ⟨mild_countingHabits, hscript, rfl, ?_⟩
  rcases hdone : (countingHabits.surroundings.request "find" .null none briefExchange
    windingScene).1 with fault | result
  · rw [hdone] at hanswered
    cases hanswered
  · obtain ⟨before, memory, hcomes⟩ := (hcorrelates result).mp hdone
    exact ⟨result, before, _, memory, rfl, hcomes⟩

end ClassOrder
