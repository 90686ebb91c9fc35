import ClassOrder.Proofs.ExactTime
import ClassOrder.Proofs.Session.Calls
import ClassOrder.Proofs.Session.Greeting
import ClassOrder.Server.Scripted

/-!
# The conversations of a run

Over a run, the session that is talked to has had its whole conversation, as long as no start goes
astray: a conversation that breaks off leaves the server to be talked to, and the next start takes
it as it is.  The theorem at the end says exactly which starts leave a server although they fail,
and that those are the only ones after which the session talks to a server never greeted.

## Main definitions

* `Session.conversed` — whether the conversation with the last server came to its end.
* `Session.Sound` — the server that there is has had its whole conversation.
* `Turn.GoesAstray` — a start whose conversation breaks off and leaves a server to talk to.

## Main results

* `take_formerEnded` — whatever happens, the servers of before have ended.
* `take_sound` — a turn that does not go astray leaves no server that was not greeted.
* `failed_start_leaves_server_iff` — **what failed starts leave**.
-/

namespace ClassOrder

open ClassOrder.Action (Keeps Triple)

variable {τ : Type} [Timeline τ] {s t u : Session τ}

/-- Whether the conversation with the last server came to its end, after a start; `was` says it of
the last server before. -/
def Session.conversedFrom (was : Bool) (u : Session τ) : Bool :=
  if u.isRunning then was
  else match startup.apply u with
    | (.ok (), s) => (openConversation.apply s).1.isOk
    | (.error _, _) => was

/-- The same after a turn. -/
def Turn.conversed (was : Bool) (s : Session τ) (turn : Turn τ) : Bool :=
  match turn.startsFrom s with
  | some u => u.conversedFrom was
  | none => was

/-- Whether the conversation with the last server came to its end, after a run. -/
def Session.conversed (was : Bool) (s : Session τ) : List (Turn τ) → Bool
  | [] => was
  | turn :: turns => (turn.take s).2.conversed (turn.conversed was s) turns

/-- The server that there is, if it is to be talked to, has had its whole conversation. -/
def Session.Sound (was : Bool) (s : Session τ) : Prop :=
  s.isRunning = true → was = true ∧ s.OnTranscript Greeted

/-- A turn that starts a server, with which the conversation breaks off, and leaves it to be talked
to. -/
def Turn.GoesAstray (s : Session τ) (turn : Turn τ) : Prop :=
  ∃ u fault t, turn.startsFrom s = some u ∧
    Session.ensureStarted.apply u = (.error fault, t) ∧ u.BreaksOff fault t ∧
    (turn.take s).2.isRunning = true

/-! ### The servers of before -/

theorem Session.ensureStarted_formerEnded (hu : u.FormerEnded) :
    (Session.ensureStarted.apply u).2.FormerEnded := by
  rcases hrun : Session.ensureStarted.apply u with ⟨fault | ⟨⟩, t⟩
  · exact (ensureStarted_failed hu hrun).elim (·.former) (·.2)
  · rcases ensureStarted_ok hrun with ⟨-, rfl⟩ | ⟨-, s, hstart, htalk⟩
    · exact hu
    · have hlater := (openConversation_later s).apply (Later.refl s)
      rw [htalk] at hlater
      exact hlater.former (startup_triple.of_ok hu hstart).former

/-- Whatever happens, the servers of before have ended. -/
theorem Turn.take_formerEnded (turn : Turn τ) (hs : s.FormerEnded) :
    (turn.take s).2.FormerEnded := by
  cases hstarts : turn.startsFrom s with
  | none => exact (Turn.take_later hstarts).former hs
  | some u =>
    have hu : u.FormerEnded := (Turn.later_startsFrom hstarts).former hs
    exact (Turn.take_later_start hstarts).former (Session.ensureStarted_formerEnded hu)

/-! ### The server that there is -/

omit [Timeline τ] in
theorem Session.Sound.later {was : Bool} (hs : s.Sound was) (h : Session.Later s t) :
    t.Sound was := by
  intro hrunning
  obtain ⟨hwas, a, ha, hgreeted⟩ := hs (h.isRunning hrunning)
  refine ⟨hwas, ?_⟩
  cases hb : t.attached with
  | none => rw [Session.isRunning_of_attached_none hb] at hrunning; cases hrunning
  | some b =>
    obtain ⟨a', ha', honward⟩ := h.attached b hb
    rw [ha, Option.some_inj] at ha'
    subst ha'
    exact ⟨b, hb, hgreeted.of_prefix honward.transcript⟩

/-- A start that succeeds leaves a server that has had its whole conversation. -/
theorem Session.Sound.ensureStarted_ok {was : Bool} (hu : u.Sound was) (hformer : u.FormerEnded)
    (hrun : Session.ensureStarted.apply u = (.ok (), t)) :
    u.conversedFrom was = true ∧ t.OnTranscript Greeted := by
  rcases Session.ensureStarted_ok hrun with ⟨hrunning, rfl⟩ | ⟨hrunning, s, hstart, htalk⟩
  · rw [conversedFrom, hrunning]
    exact hu hrunning
  · have hlaunched := startup_triple.of_ok hformer hstart
    refine ⟨?_, openConversation_greeted.of_ok hlaunched htalk⟩
    simp [conversedFrom, hrunning, hstart, htalk, Except.isOk, Except.toBool]

/-- After a start the server has had its whole conversation, unless that broke off. -/
theorem Session.Sound.ensureStarted {was : Bool} (hu : u.Sound was) (hformer : u.FormerEnded)
    (hbreaks : ∀ fault t, Session.ensureStarted.apply u = (.error fault, t) →
      ¬ u.BreaksOff fault t) :
    (Session.ensureStarted.apply u).2.Sound (u.conversedFrom was) := by
  rcases hrun : Session.ensureStarted.apply u with ⟨fault | ⟨⟩, t⟩
  · -- a failed start that leaves a server to talk to has broken off
    rcases ensureStarted_failed hformer hrun with hfailed | hbroke
    · intro hrunning
      rw [hfailed.isRunning] at hrunning
      cases hrunning
    · exact absurd hbroke.1 (hbreaks fault t hrun)
  · exact fun _ => hu.ensureStarted_ok hformer hrun

/-- A turn that does not go astray leaves no server that was not greeted. -/
theorem Turn.take_sound {was : Bool} {turn : Turn τ} (hformer : s.FormerEnded) (hs : s.Sound was)
    (hastray : ¬ turn.GoesAstray s) : (turn.take s).2.Sound (turn.conversed was s) := by
  cases hstarts : turn.startsFrom s with
  | none =>
    rw [Turn.conversed, hstarts]
    exact hs.later (Turn.take_later hstarts)
  | some u =>
    have hsu := Turn.later_startsFrom hstarts
    rw [Turn.conversed, hstarts]
    intro hrunning
    -- what the turn leaves comes from what its start left
    have hafter := Turn.take_later_start hstarts
    have hstart := (hs.later hsu).ensureStarted (hsu.former hformer) fun fault t hrun hbreaks =>
      hastray ⟨u, fault, t, hstarts, hrun, hbreaks, hrunning⟩
    exact hstart.later hafter hrunning

/-! ### Runs -/

@[simp] theorem Session.run_nil (s : Session τ) : s.run [] = s := rfl

@[simp] theorem Session.run_cons (s : Session τ) (turn : Turn τ) (turns : List (Turn τ)) :
    s.run (turn :: turns) = (turn.take s).2.run turns := rfl

@[simp] theorem Session.run_append (s : Session τ) (turns more : List (Turn τ)) :
    s.run (turns ++ more) = (s.run turns).run more := List.foldl_append

theorem Session.conversed_append (was : Bool) (s : Session τ) (turns more : List (Turn τ)) :
    s.conversed was (turns ++ more) = (s.run turns).conversed (s.conversed was turns) more := by
  induction turns generalizing s was with
  | nil => rfl
  | cons turn turns ih => exact ih _ _

theorem Session.run_formerEnded (turns : List (Turn τ)) (hs : s.FormerEnded) :
    (s.run turns).FormerEnded := by
  induction turns generalizing s with
  | nil => exact hs
  | cons turn turns ih => exact ih (turn.take_formerEnded hs)

/-- No server has come before at the beginning, so those of before have ended in every run. -/
theorem Session.formerEnded_ofProject (settings : Settings τ) (project : Project) (world : World τ)
    (turns : List (Turn τ)) : ((Session.ofProject settings project world).run turns).FormerEnded :=
  Session.run_formerEnded turns fun v hv => (by cases hv)

/-- A run in which no turn goes astray leaves no server that was not greeted. -/
theorem Session.run_sound {was : Bool} {turns : List (Turn τ)} (hformer : s.FormerEnded)
    (hs : s.Sound was)
    (hastray : ∀ earlier turn, earlier ++ [turn] <+: turns → ¬ turn.GoesAstray (s.run earlier)) :
    (s.run turns).Sound (s.conversed was turns) := by
  induction turns generalizing s was with
  | nil => exact hs
  | cons turn turns ih =>
    have hfirst : ¬ turn.GoesAstray s := hastray [] turn ⟨turns, rfl⟩
    refine ih (turn.take_formerEnded hformer) (Turn.take_sound hformer hs hfirst) ?_
    intro earlier next hearlier
    exact hastray (turn :: earlier) next ((List.prefix_cons_inj turn).mpr hearlier)

theorem Turn.GoesAstray.conversed {was : Bool} {turn : Turn τ} (h : turn.GoesAstray s) :
    turn.conversed was s = false := by
  obtain ⟨u, fault, t, hstarts, hrun, ⟨-, w, hstart, htalk⟩, -⟩ := h
  have hrunning : u.isRunning = false := by
    cases hr : u.isRunning with
    | false => rfl
    | true => simp [Session.apply_ensureStarted, hr] at hrun
  simp [Turn.conversed, hstarts, Session.conversedFrom, hrunning, hstart, htalk, Except.isOk,
    Except.toBool]

/-- **What failed starts leave.**  In every run, a start that fails leaves a server exactly if that
has not ended by itself and either the conversation with it broke off, with a fault that is not one
of the session's own, or its input could not be closed.  And no server is talked to that has not
had its whole conversation, nor does a start succeed over one, exactly if no start goes astray. -/
theorem failed_start_leaves_server_iff (settings : Settings τ) (project : Project)
    (world : World τ) (turns : List (Turn τ)) :
    let s := Session.ofProject settings project world
    (∀ earlier turn u fault t, earlier ++ [turn] <+: turns →
        turn.startsFrom (s.run earlier) = some u →
        Session.ensureStarted.apply u = (.error fault, t) →
        ((t.isRunning = true ∨ ∃ v ∈ t.servers, v.isAlive = true) ↔
          t.serverAlive = true ∧ (u.BreaksOff fault t ∨ t.Refuses fault))) ∧
      ((∀ earlier, earlier <+: turns → (s.run earlier).Sound (s.conversed false earlier)) ∧
          (∀ earlier turn u t, earlier ++ [turn] <+: turns →
            turn.startsFrom (s.run earlier) = some u →
            Session.ensureStarted.apply u = (.ok (), t) →
            u.conversedFrom (s.conversed false earlier) = true ∧ t.OnTranscript Greeted) ↔
        ∀ earlier turn, earlier ++ [turn] <+: turns → ¬ turn.GoesAstray (s.run earlier)) := by
  intro s
  have hformer (earlier : List (Turn τ)) : (s.run earlier).FormerEnded :=
    Session.formerEnded_ofProject settings project world earlier
  refine ⟨fun earlier turn u fault t _ hstarts hrun => ?_, fun ⟨hsound, _⟩ => ?_, fun hastray => ?_⟩
  · have hsu := Turn.later_startsFrom hstarts
    exact Session.ensureStarted_error (hsu.former (hformer earlier)) hrun
  · -- a turn that goes astray leaves a server to talk to whose conversation broke off
    intro earlier turn hearlier hgoes
    have hafter := hsound (earlier ++ [turn]) hearlier
    obtain ⟨-, -, -, -, -, -, hrunning⟩ := id hgoes
    rw [Session.run_append, Session.conversed_append] at hafter
    have hwas := (hafter hrunning).1
    rw [Session.conversed, Session.conversed, hgoes.conversed] at hwas
    cases hwas
  · have hsound (earlier : List (Turn τ)) (hearlier : earlier <+: turns) :
        (s.run earlier).Sound (s.conversed false earlier) := by
      refine Session.run_sound (hformer []) (fun hrunning => ?_) fun e turn he =>
        hastray e turn (he.trans hearlier)
      cases hrunning
    refine ⟨hsound, fun earlier turn u t hearlier hstarts hrun => ?_⟩
    have hsu := Turn.later_startsFrom hstarts
    have hu := (hsound earlier ((List.prefix_append _ _).trans hearlier)).later hsu
    exact hu.ensureStarted_ok (hsu.former (hformer earlier)) hrun

/-! ### A start that goes astray -/

/-- A session with exact times whose servers follow rules. -/
def sampleSession (project : Project) (files : FileTree) (rules : Rules ℚ) : Session ℚ :=
  .ofProject
    { serverCommand := some ["server"]
      startDir := none
      cacheTtl := 5
      requestTimeout := 5
      readTimeout := 5
      drainTimeout := 1
      shutdownTimeout := 2
      minServerVersion := oldestServer
      debug := false
      environment := [] }
    project
    { clock := 0
      host := { files }
      temporary := Path.ofString "/"
      processId := 1
      suffix := fun _ => ""
      launches := fun _ => .ok rules.conduct
      credit := 1000 }

/-- A project with a stylesheet that is no text. -/
def unreadableSession : Session ℚ :=
  sampleSession ⟨some (.ofString "/"), some (.ofString "/c.js"), some (.ofString "/s.css")⟩
    ⟨[(["c.js"], .file [] 0 false), (["s.css"], .file [255] 0 false)]⟩
    { batches := [(Method.handshake, [[.answer (.object [])]])] }

example : (unreadableSession.run [.call .start]).isRunning = true ∧
    unreadableSession.conversed false [.call .start] = false := by decide +kernel

end ClassOrder
