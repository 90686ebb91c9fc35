import ClassOrder.Proofs.ExactTime
import ClassOrder.Proofs.Session.Premises
import ClassOrder.Proofs.Session.Yielding

/-!
# How a server is brought down

A server is brought down in steps, and the session goes no further than it must: its input is
closed; a server that was asked to end gets some time; one that is still there is told to end and
gets as much time again; one that is there even then is ended by force.  The streams that it wrote
to are closed when it has ended.  Each step is taken whatever the server does, and whatever closing
a stream fails with, as long as that is passed over; so the steps end with a server that has ended
and a session that has none.

## Main definitions

* `Server.Ends` — how a server whose input is closed comes to its end.
* `Server.Descends` — all that is done to a server to bring it down, and what becomes of it.
* `Session.RidOf` — the session after its server was brought down.

## Main results

* `Server.Descends.departed` — at the end of the descent there is nothing left of the server.
* `teardown_ridOf` — a teardown is a descent.
* `teardown_ends_server` — **abandoning and stopping a server bring it down**, whatever it does.
-/

namespace ClassOrder

open ClassOrder.Action (Keeps Triple)

variable {τ : Type}

namespace Server

variable {now patience : τ} {v w : Server τ} {events : List (ServerEvent τ)}

/-- The server `w` is what is left of `v`: it has ended, with a code that is known, and every stream
that led to it is closed. -/
structure Departed (v w : Server τ) : Prop where
  onward : v.Onward w
  exited : ∃ code, w.exitCode = some code
  input : w.channel.outlet.closed = true
  output : w.channel.intake.inlet.closed = true
  complaints : w.complaintsClosed = true

theorem exited_of_not_alive (h : v.isAlive = false) : ∃ code, v.exitCode = some code := by
  rw [isAlive] at h
  cases hcode : v.exitCode with
  | none => simp [hcode] at h
  | some code => exact ⟨code, rfl⟩

variable [Timeline τ]

/-- How a server whose input is closed comes to its end, and what is done to it for that: nothing
if it has ended; it is told to end if it is alive; it is ended by force, and waited for, if it is
alive even when it has been told and given time. -/
inductive Ends (now patience : τ) (v : Server τ) : List (ServerEvent τ) → Server τ → Prop
  | ended (h : v.isAlive = false) : Ends now patience v [] v
  | told (h : v.isAlive = true)
      (hheeds : ((v.nudge now .terminated).elapse now patience).isAlive = false) :
      Ends now patience v [.terminated, .waited (some patience)]
        ((v.nudge now .terminated).elapse now patience)
  | forced (h : v.isAlive = true)
      (hignores : ((v.nudge now .terminated).elapse now patience).isAlive = true) :
      Ends now patience v [.terminated, .waited (some patience), .killed, .waited none]
        (((v.nudge now .terminated).elapse now patience).kill now)

/-- What is done to a server to bring it down, and what becomes of it: its input is closed, it is
given time if it was asked to end, it comes to its end, and the streams that it wrote to are
closed. -/
inductive Descends (now patience : τ) :
    (graceful : Bool) → Server τ → List (ServerEvent τ) → Server τ → Prop
  | abandoned {v w : Server τ} {events : List (ServerEvent τ)}
      (h : Ends now patience (v.closeInput now).2 events w) :
      Descends now patience false v
        (.inputClosed :: (events ++ [.outputClosed, .complaintsClosed]))
        w.closeOutput.2.closeComplaints.2
  | stopped {v w : Server τ} {events : List (ServerEvent τ)}
      (h : Ends now patience ((v.closeInput now).2.elapse now patience) events w) :
      Descends now patience true v
        (.inputClosed :: .waited (some patience) ::
          (events ++ [.outputClosed, .complaintsClosed]))
        w.closeOutput.2.closeComplaints.2

/-! ### The input stays closed -/

@[simp] theorem closed_outlet_finish (now : τ) (code : Int) (v : Server τ) :
    (v.finish now code).channel.outlet.closed = v.channel.outlet.closed := by
  unfold finish
  split <;> rfl

@[simp] theorem closed_outlet_elapse (now time : τ) (v : Server τ) :
    (v.elapse now time).channel.outlet.closed = v.channel.outlet.closed := by
  unfold elapse
  split
  · exact closed_outlet_finish _ _ _
  · rfl

@[simp] theorem closed_outlet_nudge (now : τ) (n : Nudge) (v : Server τ) :
    (v.nudge now n).channel.outlet.closed = v.channel.outlet.closed :=
  closed_outlet_elapse now 0 { v with nudges := v.nudges ++ [n] }

@[simp] theorem closed_outlet_kill (now : τ) (v : Server τ) :
    (v.kill now).channel.outlet.closed = v.channel.outlet.closed :=
  closed_outlet_finish now (-9) v

@[simp] theorem closed_outlet_closeInput (now : τ) (v : Server τ) :
    (v.closeInput now).2.channel.outlet.closed = true := by
  unfold closeInput
  dsimp only
  split
  · rfl
  · exact closed_outlet_nudge _ _ _

/-! ### The end of the descent -/

namespace Ends

theorem isAlive (h : Ends now patience v events w) : w.isAlive = false := by
  cases h with
  | ended h => exact h
  | told _ hheeds => exact hheeds
  | forced => exact isAlive_kill _ _

theorem onward (h : Ends now patience v events w) : v.Onward w := by
  have htold := (onward_nudge now .terminated v).trans (onward_elapse now patience _)
  cases h with
  | ended => exact .refl v
  | told => exact htold
  | forced => exact htold.trans (onward_kill now _)

theorem closed_outlet (h : Ends now patience v events w) :
    w.channel.outlet.closed = v.channel.outlet.closed := by
  cases h <;> simp

theorem streamFaults (h : Ends now patience v events w) : w.streamFaults = v.streamFaults := by
  cases h <;> simp

end Ends

/-- **At the end of the descent there is nothing left of the server.** -/
theorem Descends.departed {graceful : Bool} (h : Descends now patience graceful v events w) :
    v.Departed w := by
  -- closing the two streams that the server wrote to is all that its end leaves to be done
  have hlast {u last : Server τ} {events : List (ServerEvent τ)} (hu : v.Onward u)
      (hclosed : u.channel.outlet.closed = true) (hends : Ends now patience u events last) :
      v.Departed last.closeOutput.2.closeComplaints.2 :=
    { onward := (hu.trans hends.onward).trans
        ((onward_closeOutput last).trans (onward_closeComplaints _))
      exited := exited_of_not_alive hends.isAlive
      input := hends.closed_outlet.trans hclosed
      output := rfl
      complaints := rfl }
  cases h with
  | abandoned h => exact hlast (onward_closeInput now v) (by simp) h
  | stopped h =>
    exact hlast ((onward_closeInput now v).trans (onward_elapse now patience _)) (by simp) h

end Server

namespace Session

variable {s t u : Session τ} {v w : Server τ} {events : List (ServerEvent τ)}

/-- The session `t` has come from `s`, and all that has been done since is what the events tell,
done to its server, which is now `w`. -/
structure Stands (s : Session τ) (events : List (ServerEvent τ)) (w : Server τ)
    (t : Session τ) : Prop where
  attached : ∃ x, t.attached = some ⟨w, x⟩
  events : t.world.events = s.world.events ++ events
  former : t.former = s.former
  clock : t.world.clock = s.world.clock
  settings : t.settings = s.settings

theorem Stands.refl {a : Attached τ} (ha : s.attached = some a) : Stands s [] a.server s :=
  ⟨⟨a.exchange, ha⟩, (List.append_nil _).symm, rfl, rfl, rfl⟩

theorem Stands.note (h : Stands s events w t) (r : Record) : Stands s events w (t.note r) :=
  ⟨h.attached, h.events, h.former, h.clock, h.settings⟩

theorem Stands.serverAlive (h : Stands s events w t) : t.serverAlive = w.isAlive := by
  obtain ⟨x, hx⟩ := h.attached
  rw [Session.serverAlive, hx]

theorem Stands.happen (h : Stands s events w t) (e : ServerEvent τ) :
    Stands s (events ++ [e]) w (t.happen e) := by
  refine ⟨h.attached, ?_, h.former, h.clock, h.settings⟩
  rw [← List.append_assoc, ← h.events]
  rfl

/-- Something is done to the server. -/
theorem Stands.onServer (h : Stands s events w t) (change : τ → Server τ → Server τ)
    (e : ServerEvent τ) :
    Stands s (events ++ [e]) (change s.world.clock w) ((t.onServer change).happen e) := by
  obtain ⟨x, hx⟩ := h.attached
  have hchanged : Stands s events (change s.world.clock w) (t.onServer change) :=
    ⟨⟨x, by rw [← h.clock, Session.onServer, hx]; rfl⟩, h.events, h.former, h.clock, h.settings⟩
  exact hchanged.happen e

/-- Closing a stream fails in no way that is not passed over. -/
theorem closeStream_stands {close : τ → Server τ → Except (Fault τ) Unit × Server τ}
    {e : ServerEvent τ} (fault : Option (Fault τ)) (hfault : Closable fault)
    (hclose : (close s.world.clock w).1 = closing fault) :
    Triple (Stands s events w) (closeStream close e : Action (Session τ) τ Unit)
      (fun _ => Stands s (events ++ [e]) (close s.world.clock w).2) (fun _ _ => False) := by
  intro t ht
  obtain ⟨x, hx⟩ := ht.attached
  have hdone := ht.onServer (fun now v => (close now v).2) e
  simp only [closeStream, Action.apply_ofFun, hx]
  rw [ht.clock, hclose]
  simp only [Session.onServer, hx, Option.map_some] at hdone
  rw [ht.clock] at hdone
  cases fault with
  | none => exact hdone
  | some cause =>
    simp only [closing, if_pos (hfault cause rfl)]
    exact hdone.note _

/-- Once the server has ended its other streams are closed, and the session lets go of it. -/
theorem letGo_stands (hmild : w.streamFaults.Mild) :
    Triple (Stands s events w) (do closeOutputs; detach : Action (Session τ) τ Unit)
      (fun _ t => t.attached = none ∧
        t.world.events = s.world.events ++ (events ++ [.outputClosed, .complaintsClosed]) ∧
          t.former = s.former ++ [w.closeOutput.2.closeComplaints.2]) (fun _ _ => False) := by
  have hcloses : Triple (Stands s events w) (closeOutputs : Action (Session τ) τ Unit)
      (fun _ => Stands s (events ++ [.outputClosed] ++ [.complaintsClosed])
        w.closeOutput.2.closeComplaints.2) (fun _ _ => False) :=
    Triple.bind (closeStream_stands _ hmild.output rfl) fun _ =>
      closeStream_stands _ hmild.complaints rfl
  refine Triple.bind hcloses fun _ => Triple.modify fun t ht => ?_
  obtain ⟨x, hx⟩ := ht.attached
  exact ⟨rfl, by simpa using ht.events, by simp [servers, hx, ht.former]⟩

/-! ### The steps of a teardown -/

variable [Timeline τ]

/-- The session `t` has come from `s` by bringing down its server `v`, which it does not have any
more. -/
structure RidOf (graceful : Bool) (v : Server τ) (s t : Session τ) : Prop where
  attached : t.attached = none
  descends : ∃ events w,
    Server.Descends s.world.clock s.settings.shutdownTimeout graceful v events w ∧ v.Departed w ∧
      t.world.events = s.world.events ++ events ∧ t.former = s.former ++ [w]

theorem awaitEnd_stands (timeout : τ) :
    Triple (Stands s events w) (awaitEnd timeout : Action (Session τ) τ Bool)
      (fun ended t =>
        Stands s (events ++ [.waited (some timeout)]) (w.elapse s.world.clock timeout) t ∧
          ended = !(w.elapse s.world.clock timeout).isAlive) (fun _ _ => False) := by
  refine Triple.bind (S := fun _ => Stands s (events ++ [.waited (some timeout)])
    (w.elapse s.world.clock timeout)) (Triple.modify fun t ht => ?_) fun _ => ?_
  · exact ht.onServer (fun now v => v.elapse now timeout) _
  refine Triple.get_bind fun t ht => Triple.pure fun u hu => ?_
  subst hu
  exact ⟨ht, by rw [ht.serverAlive]⟩

theorem awaitLeave_stands :
    Triple (Stands s events w) (awaitLeave : Action (Session τ) τ Unit)
      (fun _ => Stands s (events ++ [.waited (some s.settings.shutdownTimeout)])
        (w.elapse s.world.clock s.settings.shutdownTimeout)) (fun _ _ => False) := by
  refine Triple.get_bind fun t ht => ?_
  rw [ht.settings]
  refine Triple.bind ((awaitEnd_stands _).pre fun u hu => hu ▸ ht) fun ended => ?_
  exact Triple.ite (fun _ => Triple.modify fun u hu => hu.1.note _) fun _ =>
    Triple.pure fun u hu => hu.1

/-- The server comes to its end, one way or another. -/
theorem terminate_stands (halive : w.isAlive = true) :
    Triple (Stands s events w) (terminate : Action (Session τ) τ Unit)
      (fun _ t => ∃ done last,
        Server.Ends s.world.clock s.settings.shutdownTimeout w done last ∧
          Stands s (events ++ done) last t) (fun _ _ => False) := by
  refine Triple.bind (S := fun _ => Stands s (events ++ [.terminated])
    (w.nudge s.world.clock .terminated)) (Triple.modify fun t ht => ?_) fun _ => ?_
  · exact ht.onServer (fun now v => v.nudge now .terminated) _
  refine Triple.get_bind fun t ht => ?_
  rw [ht.settings]
  refine Triple.bind ((awaitEnd_stands _).pre fun u hu => hu ▸ ht) fun ended => ?_
  refine Triple.ite (fun hstays => ?_) fun hleaves => Triple.pure fun u ⟨hu, hended⟩ => ?_
  · refine Triple.bind (Triple.modify (Q := fun _ u => Stands _ _ _ u ∧ _) fun u hu =>
      ⟨hu.1.note _, hu.2⟩) fun _ => Triple.modify fun u ⟨hu, hended⟩ => ?_
    refine ⟨_, _, .forced halive (by simpa [hended] using hstays), ?_⟩
    simpa using (hu.onServer (fun now v => v.kill now) .killed).happen (.waited none)
  · exact ⟨_, _, .told halive (by simpa [hended] using hleaves), by simpa using hu⟩

/-- From a server whose input is closed, a teardown takes the last steps of its descent. -/
theorem bringDown_stands (hmild : w.streamFaults.Mild) :
    Triple (Stands s events w)
      (do
        if (← get).serverAlive then terminate
        closeOutputs
        detach : Action (Session τ) τ Unit)
      (fun _ t => ∃ done last,
        Server.Ends s.world.clock s.settings.shutdownTimeout w done last ∧ t.attached = none ∧
          t.world.events =
            s.world.events ++ (events ++ done ++ [.outputClosed, .complaintsClosed]) ∧
          t.former = s.former ++ [last.closeOutput.2.closeComplaints.2]) (fun _ _ => False) := by
  refine Triple.get_bind fun t ht => ?_
  rw [ht.serverAlive]
  refine Triple.ite (fun halive => ?_) fun hended => ?_
  · refine Triple.bind ((terminate_stands halive).pre fun u hu => hu ▸ ht) fun _ => ?_
    rintro u ⟨done, last, hends, hu⟩
    exact (letGo_stands (hends.streamFaults ▸ hmild)).post
      (fun _ _ hgone => ⟨done, last, hends, hgone⟩) (fun _ _ h => h) u hu
  · refine ((letGo_stands hmild).pre fun u hu => hu ▸ ht).post (fun _ u hu => ?_) fun _ _ h => h
    exact ⟨[], w, .ended (Bool.eq_false_iff.mpr hended), by simpa using hu⟩

/-- **A teardown is a descent**, if whatever closing the streams fails with is passed over. -/
theorem teardown_ridOf (graceful : Bool) (hmild : v.streamFaults.Mild) :
    Triple (Stands s [] v) (teardown graceful : Action (Session τ) τ Unit)
      (fun _ => RidOf graceful v s) (fun _ _ => False) := by
  refine Triple.get_bind fun t ht => Triple.ite (fun _ => ?_) fun hnone => ?_
  · refine Triple.bind (S := fun _ => Stands s [] v) (Triple.modify fun u hu => ?_) fun _ => ?_
    · subst hu
      exact ⟨ht.attached, ht.events, ht.former, ht.clock, ht.settings⟩
    refine Triple.bind (closeStream_stands _ hmild.input rfl) fun _ => ?_
    cases graceful with
    | false =>
      refine (bringDown_stands (by simpa using hmild)).post ?_ fun _ _ h => h
      rintro _ u ⟨done, last, hends, hattached, hevents, hformer⟩
      exact ⟨hattached, _, _, .abandoned hends, (Server.Descends.abandoned hends).departed,
        hevents, hformer⟩
    | true =>
      refine (Triple.bind awaitLeave_stands fun _ =>
        bringDown_stands (by simpa using hmild)).post ?_ fun _ _ h => h
      rintro _ u ⟨done, last, hends, hattached, hevents, hformer⟩
      exact ⟨hattached, _, _, .stopped hends, (Server.Descends.stopped hends).departed,
        hevents, hformer⟩
  · obtain ⟨x, hx⟩ := ht.attached
    rw [hx] at hnone
    exact absurd rfl hnone

/-! ### The last words -/

/-- The session `t` has come from `s` by nothing but words to its server, which was `v`. -/
def Speaking (v : Server τ) (s t : Session τ) : Prop :=
  ∃ w, v.Onward w ∧ w.streamFaults = v.streamFaults ∧ Stands s [] w t

theorem notify_speaking (method : String) (params : Json) :
    (notify method params : Action (Session τ) τ Unit).Keeps (Speaking v s) := by
  refine Keeps.of_apply fun t ⟨w, honward, hfaults, ht⟩ => ?_
  obtain ⟨x, hx⟩ := ht.attached
  refine ⟨_, honward.trans (w.onward_send t.world.clock (.notification method params)),
    (w.streamFaults_send _ _).trans hfaults, ⟨x, ?_⟩, ?_, ?_, ?_, ?_⟩
  · exact (notify_apply method params hx).2
  all_goals rw [notify, onWire, Action.apply_ofFun, hx]
  · exact ht.events
  · exact ht.former
  · exact ht.clock
  · exact ht.settings

theorem farewellOrGone_speaking :
    (farewellOrGone : Action (Session τ) τ Unit).Keeps (Speaking v s) := by
  have hfarewell : (farewell : Action (Session τ) τ Unit).Keeps (Speaking v s) :=
    Keeps.get_bind fun _ => Keeps.bind (notify_speaking _ _) fun _ => notify_speaking _ _
  refine Keeps.tryCatch hfarewell fun _ => Keeps.ite ?_ (Keeps.throw _)
  exact Keeps.modify fun t ⟨w, honward, hfaults, ht⟩ => ⟨w, honward, hfaults, ht.note _⟩

/-- **What stopping a server that is there to be talked to comes to**: the server as the last words
left it is brought down, and if stopping fails, the last words have failed. -/
theorem stop_ridOf {a : Attached τ} (ha : s.attached = some a) (hrunning : s.isRunning = true)
    (hmild : a.server.streamFaults.Mild) :
    ∃ said u v, farewellOrGone.apply (s.note ⟨.debug, "Stopping language server"⟩) = (said, u) ∧
      (∃ x, u.attached = some ⟨v, x⟩) ∧ a.server.Onward v ∧
        (stop.apply s).1 = said ∧ RidOf true v s (stop.apply s).2 := by
  have hspoken := (farewellOrGone_speaking (v := a.server)).apply
    ⟨a.server, .refl _, rfl, (Stands.refl ha).note ⟨.debug, "Stopping language server"⟩⟩
  rw [apply_stop, if_pos hrunning, Action.apply_andThen]
  generalize farewellOrGone.apply (s.note ⟨.debug, "Stopping language server"⟩) = spoken at hspoken
  obtain ⟨said, u⟩ := spoken
  obtain ⟨v, honward, hfaults, hu⟩ := hspoken
  have hgone := teardown_ridOf true (hfaults ▸ hmild) u hu
  refine ⟨said, u, v, rfl, hu.attached, honward, ?_⟩
  dsimp only
  split at hgone
  · next heq =>
    rw [heq]
    exact ⟨rfl, hgone⟩
  · exact hgone.elim

end Session

/-- **Abandoning and stopping a server bring it down.**  Let whatever closing the streams of the
server fails with be passed over, and let the server do what it likes.

Abandoning it succeeds.  If there is a server, its input is closed; if it is alive then, it is told
to end and given its time; if it is alive even then, it is ended by force and waited for; and then
its other streams are closed.  If there is none, nothing happens.

Stopping a server that is there to be talked to does the same, except that it is given its time once
before it is told to end; it comes to that from the server that the last words left, whether or not
they failed, and fails only if they did.

Either way the server has ended with a code that is known, every stream that led to it is closed,
the session has no server, and its workspace and its results are what they were. -/
theorem teardown_ends_server [Timeline τ] (s : Session τ)
    (hmild : ∀ a, s.attached = some a → a.server.streamFaults.Mild) :
    (∃ t, Session.abandon.apply s = (.ok (), t) ∧ t.premises = s.premises ∧
      (s.attached = none → t = s) ∧
        ∀ a, s.attached = some a → s.RidOf false a.server t) ∧
    (s.isRunning = true → ∃ a, s.attached = some a ∧ ∃ said u v,
      Session.farewellOrGone.apply (s.note ⟨.debug, "Stopping language server"⟩) = (said, u) ∧
        (∃ x, u.attached = some ⟨v, x⟩) ∧ a.server.Onward v ∧ ∃ t,
          Session.stop.apply s = (said, t) ∧ t.premises = s.premises ∧ s.RidOf true v t) := by
  constructor
  · have hpremises := Session.outward_abandon.apply s
    cases ha : s.attached with
    | none =>
      exact ⟨s, Session.teardown_of_attached_none false ha, rfl, fun _ => rfl,
        fun a h => by cases h⟩
    | some a =>
      have hgone := Session.teardown_ridOf false (hmild a ha) s (.refl ha)
      rw [Session.abandon] at hpremises ⊢
      split at hgone
      · next t heq =>
        rw [heq] at hpremises ⊢
        refine ⟨t, rfl, hpremises, fun hnone => ?_, fun b hb => ?_⟩
        · cases hnone
        · cases hb
          exact hgone
      · exact hgone.elim
  · intro hrunning
    cases ha : s.attached with
    | none =>
      rw [Session.isRunning_of_attached_none ha] at hrunning
      cases hrunning
    | some a =>
      obtain ⟨said, u, v, hspoken, hattached, honward, hsaid, hgone⟩ :=
        Session.stop_ridOf ha hrunning (hmild a ha)
      exact ⟨a, rfl, said, u, v, hspoken, hattached, honward, (Session.stop.apply s).2,
        Prod.ext hsaid rfl, Session.outward_stop.apply s, hgone⟩

/-- A session whose server cannot be written to, ends by no means but force, and has three streams
that fail when they are closed. -/
def stubbornSession : Session ℚ :=
  let conduct : Conduct ℚ :=
    { react := fun _ => []
      leaves := fun _ _ => none
      inputCloseFault := some (.system .brokenPipe)
      outputCloseFault := some (.system .inputOutput)
      complaintsCloseFault := some (.raised .badValue "closed") }
  let server := Server.launch 0 5 false 1000 conduct
  let outlet := { server.channel.outlet with writeFault := some (.system .brokenPipe) }
  { sampleSession {} {} {} with
    attached := some
      ⟨{ server with channel := { server.channel with outlet } },
        { requestTimeout := 5, readTimeout := 5, preferences := .standard }⟩ }

theorem teardown_ends_server_stubbornSession :
    (∀ a, stubbornSession.attached = some a → a.server.streamFaults.Mild) ∧
    stubbornSession.isRunning = true ∧
    (∃ a t, stubbornSession.attached = some a ∧
      Session.abandon.apply stubbornSession = (.ok (), t) ∧
      stubbornSession.RidOf false a.server t ∧
      t.world.events = [.inputClosed, .terminated, .waited (some 2), .killed, .waited none,
        .outputClosed, .complaintsClosed]) ∧
    ∃ v t, Session.stop.apply stubbornSession = (.ok (), t) ∧ stubbornSession.RidOf true v t ∧
      t.world.events = [.inputClosed, .waited (some 2), .terminated, .waited (some 2), .killed,
        .waited none, .outputClosed, .complaintsClosed] := by
  have hmild : ∀ a, stubbornSession.attached = some a → a.server.streamFaults.Mild := by
    intro a ha
    cases ha
    exact ⟨fun f hf => by cases hf; rfl, fun f hf => by cases hf; rfl, fun f hf => by cases hf; rfl⟩
  have hrunning : stubbornSession.isRunning = true := by decide +kernel
  obtain ⟨⟨t, habandon, -, -, hrid⟩, hstop⟩ := teardown_ends_server stubbornSession hmild
  obtain ⟨a, ha, said, u, v, hspoken, -, -, t', hstop, -, hrid'⟩ := hstop hrunning
  refine ⟨hmild, hrunning, ⟨a, t, ha, habandon, hrid a ha, ?_⟩, v, t', ?_, hrid', ?_⟩
  · rw [show t = (Session.abandon.apply stubbornSession).2 by rw [habandon]]
    rfl
  · rw [hstop, show said = (Session.stop.apply stubbornSession).1 by rw [hstop]]
    rfl
  · rw [show t' = (Session.stop.apply stubbornSession).2 by rw [hstop]]
    rfl

end ClassOrder
