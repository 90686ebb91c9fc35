import ClassOrder.Proofs.Session.Failing
import ClassOrder.Proofs.Session.Opening

/-!
# After a failed call

A call that fails with a fault of the session's own leaves all or nothing.  If the server answered
with an error, the session has kept it and talks to it again the next time.  Otherwise the server
has been taken down, and the next call that needs one launches another and greets it.

## Main definitions

* `Session.NeedsNone` — a run in which nothing needs a server.
* `Session.StartsAnew` — a session whose next start launches a server and greets it.
* `Session.TakenDown`, `Session.Resumes` — what is left when the server is gone, and when it is
  kept.

## Main results

* `Session.Foreign.perform_failed` — how the two calls fail.
* `failed_call_leaves` — **what a failed call leaves.**
-/

namespace ClassOrder

open ClassOrder.Action (Keeps Triple)

variable {τ : Type} [Timeline τ] {s t u : Session τ}

/-- No turn of the run needs a server. -/
def Session.NeedsNone (s : Session τ) : List (Turn τ) → Prop
  | [] => True
  | turn :: turns => turn.startsFrom s = none ∧ (turn.take s).2.NeedsNone turns

omit [Timeline τ] in
/-- Whether a turn asks for the server to be taken down. -/
def Turn.ends : Turn τ → Bool
  | call .stop | call .abandon | call .cleanup | call (.sortOnce _) => true
  | call _ | pass _ | edit _ | act _ | breakInput _ => false

namespace Session

/-- There is no server, and a start launches a new one and greets it: if it comes to a launch, what
is left of it is a handshake with a server to which nobody has talked before, and if the start
succeeds, that one has been greeted. -/
structure StartsAnew (u : Session τ) : Prop where
  attached : u.attached = none
  launched : ∀ v, startup.apply u = (.ok (), v) → ensureStarted.apply u = handshake.apply v ∧
    ∃ a, v.attached = some a ∧ v.servers = u.servers ++ [a.server] ∧ a.server.transcript = []
  greeted : ∀ v, ensureStarted.apply u = (.ok (), v) →
    ∃ a, v.attached = some a ∧ v.servers = u.servers ++ [a.server] ∧ Greeted a.server.transcript

/-- There is no server left, every one that there was has ended, and whenever one is needed next, it
is a new one. -/
structure TakenDown (t : Session τ) : Prop where
  attached : t.attached = none
  isRunning : t.isRunning = false
  ended : ∀ v ∈ t.servers, v.isAlive = false
  next : ∀ turns call u, t.NeedsNone turns → Call.startsFrom (t.run turns) call = some u →
    u.StartsAnew

omit [Timeline τ] in
/-- The server `b` is still the one to talk to, with the exchange that it had. -/
def StillHas (b : Attached τ) (u : Session τ) : Prop :=
  ∃ v, u.attached = some ⟨v, b.exchange⟩ ∧ b.server.Onward v ∧ v.isConnected = true

/-- Whenever a server is needed next, unless it has been taken down or has ended by itself, it is
the one that there is, which is not greeted again. -/
def Resumes (t : Session τ) : Prop :=
  ∃ b, t.attached = some b ∧ ∀ turns call u, t.NeedsNone turns →
    (∀ turn ∈ turns, turn.ends = false) → Call.startsFrom (t.run turns) call = some u →
    u.StillHas b ∧ (u.serverAlive = true → ensureStarted.apply u = (.ok (), u))

/-! ### The next start -/

/-- Over a session without a server, a startup changes nothing about servers but that it launches
one. -/
theorem startup_of_attached_none (former : List (Server τ)) :
    Triple (fun s => s.attached = none ∧ s.former = former)
      (startup : Action (Session τ) τ Unit)
      (fun _ s => ∃ a, s.attached = some a ∧ a.server.transcript = [] ∧ s.former = former)
      (fun _ _ => True) := by
  refine startup_spec (B := fun s => s.attached = none ∧ s.former = former) (fun s t h hs => ?_)
    (fun _ hs _ => hs) (fun s hs => ?_) (fun s t h hs => ?_) (fun _ _ _ _ => trivial)
    fun command directory s hs => ?_
  · exact ⟨(congrArg Holdings.attached h).trans hs.1, (congrArg Holdings.former h).trans hs.2⟩
  · rw [abandon, teardown_of_attached_none false hs.1]
    exact hs
  · exact ⟨(congrArg Holdings.attached h).trans hs.1, (congrArg Holdings.former h).trans hs.2⟩
  · rw [launchWith, Action.apply_ofFun]
    cases s.world.launches s.world.launched with
    | error fault => trivial
    | ok conduct => exact ⟨_, rfl, by simp [Server.launch], hs.2⟩

theorem StartsAnew.of_attached_none (hformer : u.FormerEnded) (hu : u.attached = none) :
    u.StartsAnew where
  attached := hu
  launched v hrun := by
    obtain ⟨a, ha, htranscript, hformer⟩ :=
      (startup_of_attached_none u.former).of_ok ⟨hu, rfl⟩ hrun
    refine ⟨?_, a, ha, by simp [servers, ha, hu, hformer], htranscript⟩
    rw [apply_ensureStarted, isRunning_of_attached_none hu, hrun]
    rfl
  greeted v hrun := by
    rcases ensureStarted_ok hrun with ⟨hrunning, -⟩ | ⟨-, w, hstart, htalk⟩
    · rw [isRunning_of_attached_none hu] at hrunning
      cases hrunning
    · obtain ⟨-, -, -, hlaunched⟩ := (startup_of_attached_none u.former).of_ok ⟨hu, rfl⟩ hstart
      obtain ⟨-, -, -, -, hsame, -⟩ := openConversation_opening htalk
      obtain ⟨b, hb, hgreeted⟩ :=
        openConversation_greeted.of_ok (startup_triple.of_ok hformer hstart) htalk
      exact ⟨b, hb, by simp [servers, hb, hu, hsame, hlaunched], hgreeted⟩

/-! ### Runs that need no server -/

/-- Without a need for a server, none is launched. -/
theorem NeedsNone.later {turns : List (Turn τ)} (h : t.NeedsNone turns) :
    Later t (t.run turns) := by
  induction turns generalizing t with
  | nil => exact .refl t
  | cons turn turns ih => exact (Turn.take_later h.1).trans (ih h.2)

theorem TakenDown.of_attached_none (hformer : t.FormerEnded) (ht : t.attached = none) :
    t.TakenDown where
  attached := ht
  isRunning := isRunning_of_attached_none ht
  ended v hv := hformer v (by simpa [servers, ht] using hv)
  next turns call u hneeds hstarts := by
    have hlater := hneeds.later.trans
      ((Later.refl (t.run turns)).of_holdings (Call.holdings_startsFrom hstarts))
    refine .of_attached_none (hlater.former hformer) ?_
    cases hu : u.attached with
    | none => rfl
    | some b =>
      obtain ⟨a, ha, -⟩ := hlater.attached b hu
      rw [ht] at ha
      cases ha

omit [Timeline τ] in
theorem StillHas.of_holdings {b : Attached τ} (h : s.StillHas b)
    (hholdings : t.holdings = s.holdings) : t.StillHas b := by
  rw [StillHas, show t.attached = s.attached from congrArg Holdings.attached hholdings]
  exact h

omit [Timeline τ] in
theorem StillHas.onServer {b : Attached τ} (h : s.StillHas b) {change : τ → Server τ → Server τ}
    (hchange : ∀ now v, Server.Onward v (change now v) ∧
      (change now v).isConnected = v.isConnected) : (s.onServer change).StillHas b := by
  obtain ⟨v, hv, honward, hconnected⟩ := h
  obtain ⟨hnext, hsame⟩ := hchange s.world.clock v
  exact ⟨_, by simp [Session.onServer, hv], honward.trans hnext, hsame.trans hconnected⟩

/-- A turn that neither needs the server nor asks for it to be taken down lets it be. -/
theorem StillHas.take {b : Attached τ} (h : s.StillHas b) {turn : Turn τ}
    (hneeds : turn.startsFrom s = none) (hends : turn.ends = false) :
    (turn.take s).2.StillHas b := by
  cases turn with
  | pass time => exact h.of_holdings rfl
  | edit change => exact h.of_holdings rfl
  | act deeds =>
    exact h.onServer fun now v =>
      ⟨v.onward_performAll now deeds, v.isConnected_performAll now deeds⟩
  | breakInput fault => exact h.onServer fun _ v => ⟨onward_breakInput fault none v, rfl⟩
  | call c =>
    cases c with
    | start => cases hneeds
    | project => cases hneeds
    | stop => cases hends
    | abandon => cases hends
    | cleanup => cases hends
    | sortOnce classes => cases hends
    | prepare =>
      exact Keeps.apply_bind (fun _ => Keeps.pure _)
        (h.of_holdings (quiet_prepareWorkspace.apply s))
    | sort classes =>
      have hlooked := h.of_holdings ((quiet_kept? classes).apply s)
      refine Keeps.apply_bind (fun _ => Keeps.pure _) ?_
      rw [apply_sortClasses]
      rcases hrun : (kept? classes).apply s with ⟨fault | _ | result, v⟩
      · rwa [hrun] at hlooked
      · -- a list whose order is not kept needs a server
        simp [Turn.startsFrom, Call.startsFrom, hrun] at hneeds
      · rwa [hrun] at hlooked

theorem StillHas.run {b : Attached τ} (h : s.StillHas b) {turns : List (Turn τ)}
    (hneeds : s.NeedsNone turns) (hends : ∀ turn ∈ turns, turn.ends = false) :
    (s.run turns).StillHas b := by
  induction turns generalizing s with
  | nil => exact h
  | cons turn turns ih =>
    obtain ⟨hturn, hturns⟩ := List.forall_mem_cons.mp hends
    exact ih (h.take hneeds.1 hturn) hneeds.2 hturns

omit [Timeline τ] in
theorem StillHas.isRunning {b : Attached τ} (h : s.StillHas b) (halive : s.serverAlive = true) :
    s.isRunning = true := by
  obtain ⟨v, hv, -, hconnected⟩ := h
  rw [serverAlive, hv] at halive
  rw [Session.isRunning, hv]
  exact Bool.and_eq_true_iff.mpr ⟨hconnected, halive⟩

theorem Resumes.of_heard {m : Message} (h : s.Heard m t) : t.Resumes := by
  obtain ⟨a, b, -, hkeeping, -⟩ := h
  have hhas : t.StillHas b := ⟨b.server, hkeeping.attached, .refl _, hkeeping.isConnected⟩
  refine ⟨b, hkeeping.attached, fun turns call u hneeds hends hstarts => ?_⟩
  have hu := (hhas.run hneeds hends).of_holdings (Call.holdings_startsFrom hstarts)
  refine ⟨hu, fun halive => ?_⟩
  rw [apply_ensureStarted, if_pos (hu.isRunning halive)]

/-! ### The two calls -/

/-- How what begins with a start fails: in the start, or with the server that it leaves. -/
theorem Foreign.start_failed {α : Type} {rest : Action (Session τ) τ α} (hu : u.Foreign)
    (hrest : ∀ v : Session τ, Triple v.Holding rest (fun _ _ => True) v.FailedOn)
    {fault : Fault τ} (hrun : (do ensureStarted; rest).apply u = (.error fault, t)) :
    Cleared fault t ∨ ∃ v, ensureStarted.apply u = (.ok (), v) ∧ v.FailedOn fault t := by
  have hstart := ensureStarted_cleared u hu
  rw [Action.apply_bind] at hrun
  split at hstart
  · next v heq =>
    rw [heq] at hrun
    exact .inr ⟨v, heq, (hrest v).of_error hstart.holding hrun⟩
  · next heq =>
    rw [heq] at hrun
    cases hrun
    exact .inl hstart

/-- **How the two calls fail**: in the start, or with the server that it leaves. -/
theorem Foreign.perform_failed (hs : s.Foreign) {c : Call}
    (hc : c = .project ∨ ∃ classes, c = .sort classes) {fault : Fault τ}
    (hrun : c.perform.apply s = (.error fault, t)) :
    ∃ u, c.startsFrom s = some u ∧
      (Cleared fault t ∨ ∃ v, ensureStarted.apply u = (.ok (), v) ∧ v.FailedOn fault t) := by
  rcases hc with rfl | ⟨classes, rfl⟩
  · exact ⟨s, rfl, hs.start_failed (fun _ => askProject_failed) hrun⟩
  · have hsort : (sortClasses classes).apply s = (.error fault, t) := by
      rw [Call.perform, Action.apply_bind] at hrun
      rcases hsorted : (sortClasses classes).apply s with ⟨f | result, v⟩
      · rw [hsorted] at hrun
        cases hrun
        rfl
      · rw [hsorted] at hrun
        cases hrun
    rw [apply_sortClasses] at hsort
    rcases hlook : (kept? classes).apply s with ⟨f | _ | result, v⟩
    · -- looking for a kept result never fails
      rw [kept?, Action.apply_ofFun] at hlook
      cases hlook
    · have hv : v.Foreign := hs.of_holdings (by
        rw [← (quiet_kept? classes).apply s, hlook])
      rw [hlook] at hsort
      exact ⟨v, by rw [Call.startsFrom, hlook],
        hv.start_failed (fun _ => order_failed classes) hsort⟩
    · rw [hlook] at hsort
      cases hsort

end Session

/-- **What a failed call leaves.**  In a world whose faults are foreign, after any turns, let
sorting a class list or asking for the project fail with one of the session's own faults.

If that is an error of the server, the call has started from a session with a server or got one,
and all that it has done since is to talk to it: no server was launched, closed, waited for or
ended, the exchange has counted one request more, and the last thing of all was that the response to
that request, which tells the failure, was read off the stream, and nothing after it.  Unless the
server is taken down or ends by itself, the next call that needs one takes it as it is.

If it is any other one, no server is left, all that there were have ended, and the next call that
needs one launches another and greets it. -/
theorem failed_call_leaves (settings : Settings τ) (project : Project) (world : World τ)
    (turns : List (Turn τ)) (c : Call) (hworld : world.Foreign)
    (hturns : ∀ turn ∈ turns, turn.Foreign) (hc : c = .project ∨ ∃ classes, c = .sort classes) :
    let s := (Session.ofProject settings project world).run turns
    ∀ fault t, c.perform.apply s = (.error fault, t) → fault.kind.isOwn = true →
      if fault.kind = .domain then
        (∃ u v m, c.startsFrom s = some u ∧ Session.ensureStarted.apply u = (.ok (), v) ∧
          v.Heard m t ∧ m.tellsFailure = true) ∧ t.Resumes
      else t.TakenDown := by
  intro s fault t hrun hown
  have hs : s.Foreign := (Session.Foreign.ofProject hworld settings project).run hturns
  have hformer : t.FormerEnded := by
    have hbefore : s.FormerEnded := Session.formerEnded_ofProject settings project world turns
    have hafter : (c.perform.apply s).2.FormerEnded := Turn.take_formerEnded (.call c) hbefore
    rwa [hrun] at hafter
  obtain ⟨u, hstarts, hcleared | ⟨v, hstart, hfailed⟩⟩ := hs.perform_failed hc hrun
  · obtain ⟨hkind, hnone⟩ := hcleared hown
    rw [if_neg hkind]
    exact .of_attached_none hformer hnone
  · have hleft := hfailed hown
    split at hleft
    · next hdomain =>
      obtain ⟨m, hm, hheard⟩ := hleft
      rw [if_pos hdomain]
      exact ⟨⟨u, v, m, hstarts, hstart, hheard, hm⟩, .of_heard hheard⟩
    · next hdomain =>
      rw [if_neg hdomain]
      exact .of_attached_none hformer hleft

/-- A session whose server refuses to order class lists. -/
def refusingSession : Session ℚ :=
  sampleSession {} {}
    { batches :=
        [(Method.handshake, [[.answer (.object [])]]),
          (Method.sortSelection,
            [[.refuse (.object [("code", .int 1), ("message", .string "no")])]])] }

theorem failed_call_leaves_refusingSession :
    ∃ fault t, (Call.sort "b a").perform.apply (refusingSession.run [.call .start]) =
        (.error fault, t) ∧ fault.kind = .domain ∧
      (∃ u v m, Call.startsFrom (refusingSession.run [.call .start]) (.sort "b a") = some u ∧
        Session.ensureStarted.apply u = (.ok (), v) ∧ v.Heard m t ∧ m.tellsFailure = true) ∧
      t.Resumes := by
  have hturns : ∀ turn ∈ [(.call .start : Turn ℚ)], turn.Foreign := fun turn hturn => by
    cases List.mem_singleton.mp hturn
    trivial
  have hkind : (match ((Call.sort "b a").perform.apply (refusingSession.run [.call .start])).1 with
      | .ok _ => none
      | .error fault => some fault.kind) = some FaultKind.domain := by decide +kernel
  obtain ⟨settings, project, world, hsession, hworld⟩ : ∃ settings project world,
      refusingSession = .ofProject settings project world ∧ world.Foreign :=
    ⟨_, _, _, rfl, fun _ => Rules.Foreign.conduct
      { opening := by simp
        batches := by simp [ScriptedDeed.Foreign]
        closeFault := by simp }⟩
  rw [hsession] at hkind ⊢
  rcases hrun : (Call.sort "b a").perform.apply
      ((Session.ofProject settings project world).run [.call .start]) with ⟨fault | _, t⟩
  · rw [hrun] at hkind
    have hdomain : fault.kind = .domain := Option.some_inj.mp hkind
    have hleft := failed_call_leaves settings project world _ _ hworld hturns (.inr ⟨_, rfl⟩)
      fault t hrun (by rw [hdomain]; rfl)
    rw [if_pos hdomain] at hleft
    exact ⟨fault, t, rfl, hdomain, hleft⟩
  · rw [hrun] at hkind
    cases hkind

end ClassOrder
