import ClassOrder.Proofs.Session.Answers

/-!
# What is made of a result

A result of the server may be any value.  An error that it holds is reported; a list of class lists
that it holds gives the order, which is kept; and with anything else the class list comes back as it
was.  That holds of every result but those in which something takes the place of the list of class
lists that is no list, and neither null nor empty: a text is read as if its first character were the
answer, and the others end in faults that are none of the session's own.

## Main definitions

* `Session.answerFor`, `Session.heed` — getting a result, and making something of it.
* `Session.Interprets`, `Session.Misinterprets` — what a result is to mean, and what is made of the
  ones that are misread.

## Main results

* `sortClasses_interprets_iff` — **which results mean what they are to mean.**
-/

namespace ClassOrder

variable {τ : Type}

open Json

variable {result error : Json}

namespace Session

open ClassOrder.Action (Leaves)

variable {s t u : Session τ} {classes : String}

/-- Makes something of a result for a class list. -/
def heed (classes : String) (result : Json) : Action (Session τ) τ String := do
  match ← Action.ofExcept (sortedClasses result) with
  | some sorted =>
    keep classes sorted
    return sorted
  | none =>
    log ("Server returned no sorted classes for: " ++ classes)
    return classes

/-- What a result for a class list is to mean: an error that it holds is reported; the first of the
class lists that it holds is the order, and is kept; and with anything else the class list comes
back as it was, and nothing is kept.  The session had the result in `t`. -/
structure Interprets (classes : String) (result : Json) (t : Session τ)
    (ran : Except (Fault τ) String × Session τ) : Prop where
  refused : ∀ error, result.Holds "error" error →
    ran.1 = .error (.reported "sorting classes" error) ∧ ran.2.cache = t.cache
  sorted : (∀ error, ¬ result.Holds "error" error) →
    ∀ list rest, result.Holds "classLists" (.array (.string list :: rest)) →
      ran.1 = .ok (Text.normalize list) ∧
        ran.2.cache = t.cache.put t.world.clock classes (Text.normalize list)
  unanswered : (∀ error, ¬ result.Holds "error" error) →
    (∀ list rest, ¬ result.Holds "classLists" (.array (.string list :: rest))) →
      ran.1 = .ok classes ∧ ran.2.cache = t.cache

/-- What is made of a result with something else in the place of the list: the first character of a
text is taken for the order and kept, an object lacks what is looked for, and anything else is of
the wrong type. -/
structure Misinterprets (classes : String) (result : Json) (t : Session τ)
    (ran : Except (Fault τ) String × Session τ) : Prop where
  text : ∀ c rest, result.Holds "classLists" (.string (String.ofList (c :: rest))) →
    ran.1 = .ok (Text.normalize (String.singleton c)) ∧
      ran.2.cache = t.cache.put t.world.clock classes (Text.normalize (String.singleton c))
  object : ∀ fields, result.Holds "classLists" (.object fields) →
    ran.1 = .error .missingKey ∧ ran.2.cache = t.cache
  scalar : ∀ value, result.Holds "classLists" value → value.IsScalar →
    ran.1 = .error .wrongType ∧ ran.2.cache = t.cache

/-! ### Making something of a result -/

theorem heed_of_error {fault : Fault τ} (h : sortedClasses result = .error fault)
    (t : Session τ) : (heed classes result).apply t = (.error fault, t) := by
  rw [heed, Action.apply_bind, h]
  rfl

theorem heed_of_sorted {sorted : String}
    (h : (sortedClasses result : Except (Fault τ) _) = .ok (some sorted)) (t : Session τ) :
    (heed classes result).apply t =
      (.ok sorted, { t with cache := t.cache.put t.world.clock classes sorted }) := by
  rw [heed, Action.apply_bind, h]
  rfl

theorem heed_of_none (h : (sortedClasses result : Except (Fault τ) _) = .ok none)
    (t : Session τ) : (heed classes result).apply t =
      (.ok classes, t.note ⟨.debug, "Server returned no sorted classes for: " ++ classes⟩) := by
  rw [heed, Action.apply_bind, h]
  rfl

/-- A result means what it is to mean unless it mislists. -/
theorem heed_interprets (h : ¬ result.Mislists) (t : Session τ) :
    Interprets classes result t ((heed classes result).apply t) where
  refused error herror := by
    rw [heed_of_error (sortedClasses_of_refused herror)]
    exact ⟨rfl, rfl⟩
  sorted hnone list rest hlist := by
    rw [heed_of_sorted (sortedClasses_of_listed hnone hlist)]
    exact ⟨rfl, rfl⟩
  unanswered hnone hlist := by
    rw [heed_of_none (sortedClasses_of_unlisted hnone hlist h)]
    exact ⟨rfl, rfl⟩

theorem heed_misinterprets (h : result.Mislists) (t : Session τ) :
    Misinterprets classes result t ((heed classes result).apply t) := by
  obtain ⟨hnone, value, hvalue, -⟩ := h
  obtain ⟨htext, hobject, hscalar⟩ := sortedClasses_of_mislists (τ := τ) hnone hvalue
  refine ⟨fun c rest hc => ?_, fun fields hfields => ?_, fun value' hvalue' hs => ?_⟩
  · rw [heed_of_sorted (htext c rest (hvalue.unique hc))]
    exact ⟨rfl, rfl⟩
  · rw [heed_of_error (hobject fields (hvalue.unique hfields))]
    exact ⟨rfl, rfl⟩
  · obtain rfl := hvalue.unique hvalue'
    rw [heed_of_error (hscalar hs)]
    exact ⟨rfl, rfl⟩

/-- A result that mislists does not mean what it is to mean, if nothing was kept for the class
list. -/
theorem Misinterprets.not_interprets {ran : Except (Fault τ) String × Session τ}
    (h : Misinterprets classes result t ran) (hmislists : result.Mislists)
    (hcache : t.cache.entryOf? (fingerprint classes) = none) :
    ¬ Interprets classes result t ran := by
  intro hinterprets
  obtain ⟨hnone, value, hvalue, harray⟩ := hmislists
  -- it is to mean that the class list comes back, with nothing kept
  obtain ⟨hback, hsame⟩ := hinterprets.unanswered hnone fun list rest hlist =>
    harray _ (hvalue.unique hlist)
  have hend {fault : Fault τ} (herror : ran.1 = .error fault ∧ ran.2.cache = t.cache) : False := by
    rw [hback] at herror
    cases herror.1
  cases value with
  | string text =>
    obtain ⟨c, rest, rfl⟩ := hvalue.exists_cons
    -- the first character has been kept
    obtain ⟨-, hput⟩ := h.text c rest hvalue
    have hkept := hput.symm.trans hsame
    have hentry := Cache.entryOf?_put_self t.world.clock classes
      (Text.normalize (String.singleton c)) t.cache
    rw [hkept, hcache] at hentry
    cases hentry
  | object fields => exact hend (h.object fields hvalue)
  | array items => exact absurd rfl (harray items)
  | _ => exact hend (h.scalar _ hvalue ⟨by simp, by simp, by simp⟩)

/-! ### Getting a result -/

variable [Timeline τ]

/-- Gets a result for a class list from the server. -/
def answerFor (classes : String) : Action (Session τ) τ Json := do
  ensureStarted
  changeDocument classes
  call Method.sortSelection (sortParams (← get).documentUri classes)

theorem askForOrder_eq_heed (classes : String) :
    (askForOrder classes : Action (Session τ) τ String) =
      (do heed classes (← answerFor classes)) := by
  rw [askForOrder, answerFor]
  simp only [bind_assoc]
  rfl

theorem cache_answerFor (classes : String) (u : Session τ) :
    ((answerFor classes).apply u).2.cache.Within u.cache := by
  have hstart := (cache_ensureStarted u).1
  rw [answerFor, Action.apply_bind]
  generalize ensureStarted.apply u = started at hstart
  obtain ⟨fault | ⟨⟩, v⟩ := started
  · exact hstart
  · have hask : Outward (do
        changeDocument classes
        call Method.sortSelection (sortParams (← get).documentUri classes) :
          Action (Session τ) τ Json) :=
      Leaves.bind (outward_changeDocument classes) fun _ => Leaves.get_bind fun _ =>
        outward_call _ _
    dsimp only
    rw [hask.cache v]
    exact hstart

/-- A result comes with the response to a request for it, and that is the last thing that is
read. -/
theorem answerFor_ok (hrun : (answerFor classes).apply u = (.ok result, t)) :
    ∃ before uri id waiting,
      t.passages = u.passages ++ before ++
        .sent (.request id Method.sortSelection (sortParams uri classes)) :: waiting ++
          [.read (.response (some id) result none)] := by
  obtain ⟨⟨⟩, v, hstart, hrun⟩ := Action.apply_bind_eq_ok.mp hrun
  obtain ⟨⟨⟩, w, hchange, hrun⟩ := Action.apply_bind_eq_ok.mp hrun
  rw [Action.apply_bind, Action.apply_get] at hrun
  have hgrows : Grows u w := by
    have hv := ((lasting_grows u).ensureStarted).apply (.refl u)
    rw [hstart] at hv
    have hw := ((lasting_grows u).changeDocument classes).apply hv
    rwa [hchange] at hw
  obtain ⟨before, hbefore⟩ := hgrows.passages
  obtain ⟨id, waiting, hpassages⟩ := request_ok (call_ok hrun)
  exact ⟨before, _, id, waiting, by rw [hpassages, hbefore]⟩

end Session

/-- **Which results mean what they are to mean.**  Let there be no fresh result for a class list,
and let the session get one from the server, or fail to.  If it fails to, sorting the class list
fails in the same way and keeps nothing.

If it gets one, that comes with the response to a request for the order of the class list, which is
the last thing that passes, and nothing is kept for the class list then.  What is made of the result
is what it is to mean exactly if it does not hold something else in the place of the list of class
lists; and if it does, the first character of a text is given out and kept, and anything else ends
in a fault that is none of the session's own. -/
theorem sortClasses_interprets_iff [Timeline τ] (s : Session τ) (classes : String)
    (hfresh : s.cache.fresh? s.world.clock classes = none) :
    let u : Session τ := { s with cache := s.cache.drop classes }
    (∀ fault t, (Session.answerFor classes).apply u = (.error fault, t) →
      (Session.sortClasses classes).apply s = (.error fault, t) ∧ t.cache.Within s.cache) ∧
    ∀ result t, (Session.answerFor classes).apply u = (.ok result, t) →
      (∃ before uri id waiting,
        t.passages = s.passages ++ before ++
          .sent (.request id Method.sortSelection (sortParams uri classes)) :: waiting ++
            [.read (.response (some id) result none)]) ∧
      t.cache.Within s.cache ∧ t.cache.entryOf? (fingerprint classes) = none ∧
      (Session.Interprets classes result t ((Session.sortClasses classes).apply s) ↔
        ¬ result.Mislists) ∧
      (result.Mislists →
        Session.Misinterprets classes result t ((Session.sortClasses classes).apply s)) := by
  intro u
  -- nothing fresh is kept, so the outcome is what is made of the answer
  have hsort : (Session.sortClasses classes).apply s =
      (do Session.heed classes (← Session.answerFor classes)).apply u := by
    rw [Session.sortClasses_of_not_fresh hfresh, Session.askForOrder_eq_heed]
  have hwithin := Session.cache_answerFor classes u
  rw [hsort, Action.apply_bind]
  refine ⟨fun fault t hrun => ?_, fun result t hrun => ?_⟩
  · rw [hrun] at hwithin ⊢
    exact ⟨rfl, hwithin.trans (Cache.within_drop classes s.cache)⟩
  · rw [hrun] at hwithin ⊢
    have hnone : t.cache.entryOf? (fingerprint classes) = none := by
      cases hentry : t.cache.entryOf? (fingerprint classes) with
      | none => rfl
      | some e => exact (hwithin.entry hentry).symm.trans (Cache.entryOf?_drop_self classes s.cache)
    have hmis (h : result.Mislists) : Session.Misinterprets classes result t
        ((Session.heed classes result).apply t) := Session.heed_misinterprets h t
    refine ⟨Session.answerFor_ok (u := u) hrun,
      hwithin.trans (Cache.within_drop classes s.cache), hnone,
      ⟨fun h hmislists => ?_, fun h => Session.heed_interprets h t⟩, hmis⟩
    exact (hmis hmislists).not_interprets hmislists hnone h

/-- A server that gives an object in the place of the list of class lists. -/
def mislistingSession : Session ℚ :=
  sampleSession {} {}
    { batches :=
        [(Method.handshake, [[.answer (.object [])]]),
          (Method.sortSelection,
            [[.answer (.object [("classLists", .object [("a", .int 1)])])]])] }

theorem sortClasses_interprets_iff_mislistingSession :
    mislistingSession.cache.fresh? mislistingSession.world.clock "b a" = none ∧
    ∃ result t, (Session.answerFor "b a").apply
        { mislistingSession with cache := mislistingSession.cache.drop "b a" } = (.ok result, t) ∧
      result.Mislists ∧
      ¬ Session.Interprets "b a" result t ((Session.sortClasses "b a").apply mislistingSession) ∧
      ((Session.sortClasses "b a").apply mislistingSession).1 = .error .missingKey ∧
      ((Session.sortClasses "b a").apply mislistingSession).2.cache = t.cache := by
  have hfresh : mislistingSession.cache.fresh? mislistingSession.world.clock "b a" = none := by
    decide +kernel
  have hshape : (match ((Session.answerFor "b a").apply
      { mislistingSession with cache := mislistingSession.cache.drop "b a" }).1 with
      | .ok result => (heldError? result).isNone && (result.fieldOrNull "classLists").isObject &&
          (result.fieldOrNull "classLists").isFilled
      | .error _ => false) = true := by decide +kernel
  have hsorts := (sortClasses_interprets_iff mislistingSession "b a" hfresh).2
  rcases hrun : (Session.answerFor "b a").apply
    { mislistingSession with cache := mislistingSession.cache.drop "b a" } with ⟨_ | result, t⟩
  · rw [hrun] at hshape
    cases hshape
  · rw [hrun] at hshape
    simp only [Bool.and_eq_true] at hshape
    obtain ⟨⟨herror, hobject⟩, hfilled⟩ := hshape
    obtain ⟨-, -, -, hiff, hmis⟩ := hsorts result t hrun
    cases hplace : result.fieldOrNull "classLists" with
    | object fields =>
      have hvalue : result.Holds "classLists" (.object fields) :=
        Json.holds_iff.mpr ⟨hplace, hplace ▸ hfilled⟩
      have hmislists : result.Mislists := by
        refine ⟨fun error h => ?_, _, hvalue, nofun⟩
        rw [heldError?_eq_some.mpr h] at herror
        cases herror
      exact ⟨hfresh, result, t, rfl, hmislists, fun h => hiff.mp h hmislists,
        (hmis hmislists).object fields hvalue⟩
    | _ =>
      rw [hplace] at hobject
      cases hobject

end ClassOrder
