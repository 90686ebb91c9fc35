import ClassOrder.Proofs.Exchange.Answered
import ClassOrder.Proofs.Session.Course
import ClassOrder.Proofs.Session.Lists

/-!
# What is read in answer to a request

A request of a session that gives a result shows in what has passed: it was sent, something may
have passed while it waited, and the last thing of all is its response, which holds the result.
Asking for the order of a class list ends with such a request, unless it fails before.

## Main definitions

* `Session.AskedFor` — the order of a class list has been asked for, and the response was read last.

## Main results

* `request_ok` — a request that gives a result ends with its response.
* `order_cases` — how asking for an order ends, and what is kept of it.
-/

namespace ClassOrder

open ClassOrder.Action (Keeps Triple)

variable {τ : Type} [Timeline τ]

namespace Session

variable {s t u : Session τ} {method : String} {params result : Json} {classes : String}

/-- **A request that gives a result ends with its response**, which holds the result. -/
theorem request_ok (hrun : (request method params).apply s = (.ok result, t)) :
    ∃ id waiting, t.passages = s.passages ++ .sent (.request id method params) :: waiting ++
      [.read (.response (some id) result none)] := by
  cases ha : s.attached with
  | none =>
    rw [request, onWire_of_attached_none _ ha] at hrun
    cases hrun
  | some a =>
    obtain ⟨hresult, hattached, hformer⟩ :=
      onWire_apply (fun x w => x.request Wire.link method params none w) ha
    rw [← request, hrun] at hresult hattached hformer
    generalize htalk : a.exchange.request Wire.link method params none
      ⟨a.server, s.world.clock, s.world.log⟩ = talked at hresult hattached
    obtain ⟨r, y, w⟩ := talked
    obtain rfl : .ok result = r := hresult
    let id : MessageId := .number (a.exchange.lastId + 1)
    let sent : List Passage := a.server.transcript ++ [.sent (.request id method params)]
    have hsend : Triple (fun w => w.server.transcript = a.server.transcript)
        (Wire.send (.request id method params) : Action (Wire τ) τ Unit)
        (fun _ w => sent <+: w.server.transcript)
        (fun _ w => w.server.transcript = a.server.transcript) :=
      Wire.send_transcript (P := (· = a.server.transcript)) (Q := (sent <+: ·))
        fun tr htr => htr ▸ List.prefix_refl _
    -- while the request waits, what has passed starts with what had passed and the request
    obtain ⟨v, ⟨waiting, hwaiting⟩, timeout, hread⟩ :=
      Exchange.request_answered (B := fun w => w.server.transcript = a.server.transcript)
        (I := fun w => sent <+: w.server.transcript) (fun _ _ h => h) hsend
        (Wire.awaits_transcript (I := (sent <+: ·)) (D := fun _ => True)
          (fun _ _ _ htr => htr.trans (List.prefix_append _ _))
          (fun _ _ htr _ => htr.trans (List.prefix_append _ _)) fun _ _ _ _ => trivial)
        rfl htalk
    have hlast : w.server.transcript =
        v.server.transcript ++ [.read (.response (some id) result none)] :=
      (Wire.receive_transcript (P := (· = v.server.transcript))
        (Q := fun m tr => tr = v.server.transcript ++ [.read m])
        (fun tr m htr => htr ▸ rfl) timeout).of_ok rfl hread
    refine ⟨id, waiting, ?_⟩
    rw [passages_of_attached hattached, passages_of_attached ha, hformer, hlast, ← hwaiting]
    simp [sent]

theorem call_ok (hrun : (call method params).apply s = (.ok result, t)) :
    (request method params).apply s = (.ok result, t) := by
  rw [call, orAbandon, Action.apply_tryCatch] at hrun
  split at hrun
  · next heq =>
    cases hrun
    exact heq
  · -- what handles a fault ends by throwing it
    split at hrun
    · rw [Action.apply_bind] at hrun
      split at hrun <;> cases hrun
    · cases hrun

omit [Timeline τ] in
/-- The result that the last response holds, if a response is the last thing that has passed. -/
def lastResult? (s : Session τ) : Option Json :=
  match s.passages.getLast? with
  | some (.read (.response _ result _)) => some result
  | _ => none

omit [Timeline τ] in
/-- The server has been asked to put a class list in order, and what was read last is its response,
which holds the result. -/
def AskedFor (s t : Session τ) (classes : String) (result : Json) : Prop :=
  ∃ before uri id waiting,
    t.passages = s.passages ++ before ++
      .sent (.request id "@/tailwindCSS/sortSelection"
        (.object [("uri", uri), ("classLists", .array [.string classes])])) :: waiting ++
      [.read (.response (some id) result none)]

omit [Timeline τ] in
theorem AskedFor.passages_ne (h : AskedFor s t classes result) :
    t.passages ≠ s.passages := by
  obtain ⟨before, uri, id, waiting, hpassages⟩ := h
  intro heq
  have hlength := congrArg List.length (hpassages.symm.trans heq)
  simp only [List.length_append, List.length_cons, List.length_nil] at hlength
  omega

omit [Timeline τ] in
/-- The result is the one that was read last. -/
theorem AskedFor.lastResult? (h : AskedFor s t classes result) : t.lastResult? = some result := by
  obtain ⟨before, uri, id, waiting, hpassages⟩ := h
  rw [Session.lastResult?, hpassages, List.getLast?_concat]

omit [Timeline τ] in
/-- There is one response that was read last. -/
theorem AskedFor.result_unique {result' : Json} (h : AskedFor s t classes result)
    (h' : AskedFor u t classes result') : result = result' :=
  Option.some_inj.mp (h.lastResult?.symm.trans h'.lastResult?)

omit [Timeline τ] in
theorem AskedFor.of_prefix (h : AskedFor s t classes result)
    (hbefore : u.passages <+: s.passages) : AskedFor u t classes result := by
  obtain ⟨before, uri, id, waiting, hpassages⟩ := h
  obtain ⟨more, hmore⟩ := hbefore
  exact ⟨more ++ before, uri, id, waiting, by rw [hpassages, ← hmore]; simp⟩

/-- How asking for an order ends, and what is kept of it: nothing if it fails or no class list is
read out of the result, and else the one that is, as of the time when the result came. -/
theorem order_cases (classes : String) (s : Session τ) :
    (∃ fault t, (order classes).apply s = (.error fault, t) ∧ t.cache = s.cache) ∨
      (∃ result t, (order classes).apply s = (.ok classes, t) ∧ t.cache = s.cache ∧
        AskedFor s t classes result ∧ ∀ sorted, ¬ result.Reads sorted) ∨
      ∃ result sorted t, (order classes).apply s = (.ok sorted, t) ∧
        t.cache = s.cache.put t.world.clock classes sorted ∧
        AskedFor s t classes result ∧ result.Reads sorted := by
  have hchange := (outward_changeDocument classes).cache s
  have hgrows : Grows s ((changeDocument classes).apply s).2 :=
    ((lasting_grows s).changeDocument classes).apply (.refl s)
  rw [order, Action.apply_bind]
  generalize (changeDocument classes).apply s = changed at hchange hgrows
  obtain ⟨fault | ⟨⟩, v⟩ := changed
  · exact .inl ⟨fault, v, rfl, hchange⟩
  · have hcall := (outward_call Method.sortSelection (sortParams v.documentUri classes)).cache v
    simp only [Action.apply_bind, Action.apply_get]
    rcases hrun : (call Method.sortSelection (sortParams v.documentUri classes)).apply v with
      ⟨fault | result, w⟩
    · rw [hrun] at hcall
      exact .inl ⟨fault, w, rfl, hcall.trans hchange⟩
    · rw [hrun] at hcall
      obtain ⟨id, waiting, hpassages⟩ := request_ok (call_ok hrun)
      -- the request follows the new text of the document, which only adds passages
      have hasked : AskedFor s w classes result :=
        AskedFor.of_prefix ⟨[], _, id, waiting, by rw [hpassages, List.append_nil]; rfl⟩
          hgrows.passages
      rcases hsorted : (sortedClasses result : Except (Fault τ) _) with fault | _ | sorted
      · exact .inl ⟨fault, w, by simp [hsorted], hcall.trans hchange⟩
      · refine .inr (.inl ⟨result,
          w.note ⟨.debug, "Server returned no sorted classes for: " ++ classes⟩,
          ?_, hcall.trans hchange, hasked, fun sorted hreads => ?_⟩)
        · simp only [hsorted]
          rfl
        · rw [sortedClasses_eq_some_iff.mpr hreads] at hsorted
          cases hsorted
      · refine .inr (.inr ⟨result, sorted,
          { w with cache := w.cache.put w.world.clock classes sorted },
          ?_, ?_, hasked, sortedClasses_eq_some_iff.mp hsorted⟩)
        · simp only [hsorted]
          rfl
        · exact congrArg (Cache.put w.world.clock classes sorted) (hcall.trans hchange)

end Session

end ClassOrder
