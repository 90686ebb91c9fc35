import ClassOrder.Proofs.Session.Start
import ClassOrder.Proofs.Session.Transcript

/-!
# What a server is told first

The conversation that comes first, as the transcript shows it: the handshake is the very first
message, and once its response is there the server is told that the session is ready, then the
settings, then every document, the configuration first.

## Main definitions

* `told` — the methods of what the server is asked and told.
* `Greeted` — a transcript that begins with the whole conversation.

## Main results

* `openConversation_greeted` — a conversation that comes to its end shows in the transcript.
-/

namespace ClassOrder

open ClassOrder.Action (Keeps Triple)

variable {τ : Type}

/-- The method of what the server is asked or told, if it is. -/
def Passage.told? : Passage → Option String
  | sent (.request _ method _) | sent (.notification method _) => some method
  | _ => none

/-- The methods of what the server is asked and told, in order. -/
def told (t : List Passage) : List String := t.filterMap Passage.told?

@[simp] theorem told_append (t u : List Passage) : told (t ++ u) = told t ++ told u :=
  List.filterMap_append

@[simp] theorem told_sent_notification (method : String) (params : Json) :
    told [.sent (.notification method params)] = [method] := rfl

@[simp] theorem told_reply (id : MessageId) (result : Json) : told [reply id result] = [] := rfl

@[simp] theorem told_read (m : Message) : told [.read m] = [] := rfl

/-- The transcript begins with the handshake, which waits for its response. -/
def Asked (id : MessageId) (t : List Passage) : Prop :=
  ∃ params waiting, t = .sent (.request id Method.handshake params) :: waiting ∧ told waiting = []

/-- The transcript begins with the handshake and its response, and what the server is asked and
told after it has a property. -/
def Answered (P : List String → Prop) (t : List Passage) : Prop :=
  ∃ id asked m rest, t = asked ++ .read m :: rest ∧ Asked id asked ∧ m.responds id = true ∧
    P (told rest)

/-- The transcript begins with the whole conversation that comes first. -/
def Greeted (t : List Passage) : Prop :=
  Answered (fun methods => ∃ stylesheet, Session.announcements stylesheet <+: methods) t

/-! ### The conversation grows -/

theorem Asked.append {id : MessageId} {t u : List Passage} (h : Asked id t) (hu : told u = []) :
    Asked id (t ++ u) := by
  obtain ⟨params, waiting, rfl, hwaiting⟩ := h
  exact ⟨params, waiting ++ u, rfl, by simp [hwaiting, hu]⟩

theorem Asked.answered {id : MessageId} {t : List Passage} {m : Message} (h : Asked id t)
    (hm : m.responds id = true) : Answered (· = []) (t ++ [.read m]) :=
  ⟨id, t, m, [], rfl, h, hm, rfl⟩

theorem Answered.append {P Q : List String → Prop} {t : List Passage} (h : Answered P t)
    (u : List Passage) (hPQ : ∀ methods, P methods → Q (methods ++ told u)) :
    Answered Q (t ++ u) := by
  obtain ⟨id, asked, m, rest, rfl, hasked, hm, hP⟩ := h
  refine ⟨id, asked, m, rest ++ u, by simp, hasked, hm, ?_⟩
  rw [told_append]
  exact hPQ _ hP

theorem Answered.mono {P Q : List String → Prop} {t : List Passage} (h : Answered P t)
    (hPQ : ∀ methods, P methods → Q methods) : Answered Q t := by
  obtain ⟨id, asked, m, rest, ht, hasked, hm, hP⟩ := h
  exact ⟨id, asked, m, rest, ht, hasked, hm, hPQ _ hP⟩

/-- What the server was told first it has been told ever after. -/
theorem Greeted.of_prefix {t u : List Passage} (h : Greeted t) (htu : t <+: u) : Greeted u := by
  obtain ⟨rest, rfl⟩ := htu
  refine h.append rest fun methods hannounced => ?_
  obtain ⟨stylesheet, hannounced⟩ := hannounced
  exact ⟨stylesheet, hannounced.trans (List.prefix_append _ _)⟩

namespace Session

variable [Timeline τ]

/-- **A conversation that comes to its end shows in the transcript.** -/
theorem openConversation_greeted :
    Triple Launched (openConversation : Action (Session τ) τ Unit)
      (fun _ => OnTranscript Greeted) (fun _ _ => True) := by
  have htalks : Talks (τ := τ) (OnTranscript (· = []))
      (fun methods => OnTranscript (Answered (· = methods))) (fun _ _ => True) :=
    { quiet_before := fun _ _ hholdings hs => hs.of_holdings hholdings
      quiet_after := fun _ _ _ hholdings hs => hs.of_holdings hholdings
      failed_before := fun _ _ _ => trivial
      failed_after := fun _ _ _ _ => trivial
      ask := by
        intro params
        refine (request_transcript (I := Asked) (fun id t ht => ?_) (fun id t rid result ht => ?_)
          (fun id t m ht _ => ?_) (fun id t m ht hm => ?_)).post (fun _ _ hs => hs)
          fun _ _ _ => trivial
        · exact ⟨params, [], by rw [ht, List.nil_append], rfl⟩
        · exact ht.append (told_reply rid result)
        · exact ht.append (told_read m)
        · exact ht.answered hm
      announce := by
        intro methods method params
        refine (notify_transcript fun t ht => ?_).post (fun _ _ hs => hs) fun _ _ _ => trivial
        exact ht.append _ fun ms hms => by rw [hms, told_sent_notification]
      drain := by
        intro methods timeout
        -- nothing that is read or replied tells the server anything
        refine (drain_transcript timeout (fun t id result ht => ?_) fun t m ht => ?_).post
          (fun _ _ hs => hs) fun _ _ _ => trivial
        · exact ht.append _ fun ms hms => by rw [hms, told_reply, List.append_nil]
        · exact ht.append _ fun ms hms => by rw [hms, told_read, List.append_nil] }
  refine htalks.openConversation.conseq (fun _ hs => hs.attached) (fun _ s hs => ?_)
    fun _ _ _ => trivial
  obtain ⟨stylesheet, hs⟩ := hs
  refine hs.mono fun t ht => ht.mono fun ms hms => ⟨stylesheet, ?_⟩
  exact hms ▸ List.prefix_refl _

end Session

end ClassOrder
