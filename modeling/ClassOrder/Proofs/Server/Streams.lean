import ClassOrder.Proofs.Channel.Sending
import ClassOrder.Proofs.Server.Onward
import ClassOrder.Channel.Line

/-!
# What the streams of a server fail with

Closing a stream of a server fails with a fault that the server has from the beginning, and nothing
that is done to the server changes that.  Writing to it fails with a fault that may come later, even
between one message and the next.  A server *hears* if writing to it succeeds or fails in a way that
is taken for a lost connection, and it takes some messages if it hears each of those that are sent
to it.

## Main definitions

* `StreamFaults`, `Server.streamFaults` — what closing the streams of a server fails with.
* `StreamFaults.Mild` — all of it is passed over.
* `Server.Hears` — a server that can be spoken to.
* `Server.Takes` — a server that hears one message after the other.

## Main results

* `Server.streamFaults_send` and the others — no operation changes what closing fails with.
* `Server.send_outcome` — what sending a message comes to.
* `Server.takes_cons_iff` — what taking a message and more comes to.
-/

namespace ClassOrder

variable {τ : Type}

/-- What closing the streams of a server fails with. -/
structure StreamFaults (τ : Type) where
  input : Option (Fault τ)
  output : Option (Fault τ)
  complaints : Option (Fault τ)

/-- Whatever closing a stream fails with is passed over. -/
def Closable (fault : Option (Fault τ)) : Prop := ∀ f, fault = some f → passedOver f = true

/-- Whatever closing the streams fails with is passed over. -/
structure StreamFaults.Mild (f : StreamFaults τ) : Prop where
  input : Closable f.input
  output : Closable f.output
  complaints : Closable f.complaints

namespace Server

def streamFaults (v : Server τ) : StreamFaults τ :=
  ⟨v.channel.outlet.closeFault, v.conduct.outputCloseFault, v.conduct.complaintsCloseFault⟩

/-- Writing to the server succeeds, or fails in a way that is taken for a lost connection. -/
def Hears (v : Server τ) : Prop :=
  ∀ f, v.channel.outlet.writeFault.or v.channel.outlet.flushFault = some f →
    (sendFault f).kind.isProtocol = true

variable [Timeline τ] {v : Server τ}

/-! ### What a server does by itself -/

@[simp] theorem streamFaults_finish (now : τ) (code : Int) (v : Server τ) :
    (v.finish now code).streamFaults = v.streamFaults := by
  unfold finish
  split <;> rfl

@[simp] theorem streamFaults_performAll (now : τ) (deeds : List (Deed τ)) (v : Server τ) :
    (v.performAll now deeds).streamFaults = v.streamFaults := by
  induction deeds generalizing v with
  | nil => rfl
  | cons deed deeds ih =>
    rw [performAll_cons, ih]
    cases deed with
    | write chunk =>
      simp only [perform]
      split <;> rfl
    | exit code => exact streamFaults_finish now code v
    | breakInput writing flushing =>
      simp only [perform]
      split <;> rfl

/-! ### Messages -/

@[simp] theorem streamFaults_send (now : τ) (m : Message) (v : Server τ) :
    (v.send now m).2.streamFaults = v.streamFaults := by
  have hclose := v.channel.outlet.closeFault_write m.frame
  unfold send Channel.send
  generalize v.channel.outlet.write m.frame = written at hclose
  obtain ⟨fault | ⟨⟩, outlet⟩ := written
  · exact congrArg (StreamFaults.mk · _ _) hclose
  · exact (streamFaults_performAll _ _ _).trans (congrArg (StreamFaults.mk · _ _) hclose)

/-- What sending a message to a server comes to whose streams are open. -/
theorem send_outcome (hopen : v.isConnected = true) (now : τ) (m : Message) :
    (v.send now m).1 = match v.channel.outlet.writeFault.or v.channel.outlet.flushFault with
      | some f => .error (sendFault f)
      | none => .ok () := by
  simp only [isConnected, Bool.and_eq_true, Bool.not_eq_true'] at hopen
  have hwritten := Outlet.write_of_open hopen.1.1 m.frame
  unfold send Channel.send
  generalize v.channel.outlet.write m.frame = written at hwritten
  obtain ⟨r, outlet⟩ := written
  obtain rfl : r = _ := hwritten
  cases v.channel.outlet.writeFault.or v.channel.outlet.flushFault <;> rfl

/-- Each of the messages that are sent to the server, one after the other until one does not pass,
finds it able to be spoken to. -/
def Takes (now : τ) : List Message → Server τ → Prop
  | [], _ => True
  | m :: ms, v => v.Hears ∧ ((v.send now m).1.isOk = true → Takes now ms (v.send now m).2)

/-- A server takes messages exactly if the first one passes and it takes the others, or the first
one fails in no other way than for a lost connection. -/
theorem takes_cons_iff (hopen : v.isConnected = true) {now : τ} {m : Message} {ms : List Message} :
    v.Takes now (m :: ms) ↔
      match (v.send now m).1 with
      | .ok () => (v.send now m).2.Takes now ms
      | .error fault => fault.kind.isProtocol = true := by
  rw [Takes, Hears, send_outcome hopen]
  cases v.channel.outlet.writeFault.or v.channel.outlet.flushFault <;>
    simp [Except.isOk, Except.toBool]

/-! ### The end -/

@[simp] theorem streamFaults_elapse (now time : τ) (v : Server τ) :
    (v.elapse now time).streamFaults = v.streamFaults := by
  unfold elapse
  split
  · exact streamFaults_finish _ _ _
  · rfl

@[simp] theorem streamFaults_nudge (now : τ) (n : Nudge) (v : Server τ) :
    (v.nudge now n).streamFaults = v.streamFaults :=
  streamFaults_elapse now 0 { v with nudges := v.nudges ++ [n] }

@[simp] theorem streamFaults_kill (now : τ) (v : Server τ) :
    (v.kill now).streamFaults = v.streamFaults := streamFaults_finish now (-9) v

@[simp] theorem streamFaults_closeInput (now : τ) (v : Server τ) :
    (v.closeInput now).2.streamFaults = v.streamFaults := by
  unfold closeInput
  dsimp only
  split
  · rfl
  · exact streamFaults_nudge _ _ _

end Server

end ClassOrder
