import ClassOrder.Proofs.Session.Results
import Mathlib.Data.List.Induction

/-!
# Answers given out again

A class list whose result is kept is put in order without a word to a server.  Every kept result is
what was read out of a server's response in an earlier turn about the same class list, the last one
of its kind, and nothing has happened since after which results no longer count.  It is the answer
that the server gave unless the response held a text in the place of the class lists.

## Main definitions

* `Turn.sorts` — the class list that a turn puts in order.
* `Turn.Obtains` — a turn in which a server is asked to put a class list in order.
* `Turn.Answers`, `Turn.Misreads`, `Turn.Gives` — a turn in which the server does so, one in which
  something else is taken for it, and either.
* `Turn.CleansUp`, `Turn.Restages` — the turns after which no result counts.
* `Turn.Spares` — a turn that leaves a result under a key to count.

## Main results

* `Turn.take_cache` — what a turn makes of the kept results.
* `run_entry` — where a kept result comes from.
* `kept_result_is_genuine_iff` — **what is given out without asking is fresh, and genuine unless it
  was misread.**
-/

namespace ClassOrder

variable {τ : Type} [Timeline τ] {s t u : Session τ} {key x y value : String} {time : τ}

/-! ### Turns that have to do with results -/

/-- The class list that a turn puts in order, if it does. -/
def Turn.sorts {τ : Type} : Turn τ → Option String
  | call (.sort classes) | call (.sortOnce classes) => some classes
  | _ => none

/-- In the turn, a server is asked to put the class list `x` in order.  Its response holds the
result, and `value` comes of it at a time. -/
def Turn.Obtains (s : Session τ) (turn : Turn τ) (x : String) (result : Json) (value : String)
    (time : τ) : Prop :=
  turn.sorts = some x ∧ ∃ t, (Session.sortClasses x).apply s = (.ok value, t) ∧
    t.world.clock = time ∧ s.AskedFor t x result

/-- In the turn, a server puts the class list `x` in order, which gives `value` at a time. -/
def Turn.Answers (s : Session τ) (turn : Turn τ) (x value : String) (time : τ) : Prop :=
  ∃ result, turn.Obtains s x result value time ∧ result.Lists value

/-- In the turn, the first character of what a server says is taken for the class list `x` in
order. -/
def Turn.Misreads (s : Session τ) (turn : Turn τ) (x value : String) (time : τ) : Prop :=
  ∃ result, turn.Obtains s x result value time ∧ result.BeginsWith value

/-- In the turn, `value` is read out of a server's response about the class list `x`, rightly or
not. -/
def Turn.Gives (s : Session τ) (turn : Turn τ) (x value : String) (time : τ) : Prop :=
  turn.Answers s x value time ∨ turn.Misreads s x value time

/-- In the turn, a server is asked to put a class list in order but has no answer. -/
def Turn.Unanswered (s : Session τ) (turn : Turn τ) : Prop :=
  ∃ x result value time, turn.Obtains s x result value time ∧ ∀ sorted, ¬ result.Lists sorted

/-- In the turn, putting a class list in order fails. -/
def Turn.FailsToSort (s : Session τ) (turn : Turn τ) : Prop :=
  ∃ x fault t, turn.sorts = some x ∧ (Session.sortClasses x).apply s = (.error fault, t)

/-- The turn is a cleanup that comes to its end. -/
def Turn.CleansUp (s : Session τ) (turn : Turn τ) : Prop :=
  turn = .call .cleanup ∧ ∃ r, (turn.take s).1 = .ok r

/-- In the turn, another configuration is copied to the workspace than the last one. -/
def Turn.Restages (s : Session τ) (turn : Turn τ) : Prop :=
  ∃ v, turn.preparesFrom s = some v ∧ v.Restages

/-- The turn leaves the result under a key to count: nothing that drops every result happens, and
no class list of that key is put in order anew. -/
structure Turn.Spares (s : Session τ) (turn : Turn τ) (key : String) : Prop where
  not_cleansUp : ¬ turn.CleansUp s
  not_restages : ¬ turn.Restages s
  not_gives : ∀ x value time, fingerprint x = key → ¬ turn.Gives s x value time

/-- What a turn makes of the kept results: it drops some, all of them if it cleans up or restages,
and keeps what is read out of a response. -/
structure Turn.Effect (s : Session τ) (turn : Turn τ) (left : Cache τ) : Prop where
  within : left.Within s.cache
  dropped : turn.CleansUp s ∨ turn.Restages s → left.entries = []
  kept : (turn.take s).2.cache = left ∧ (∀ x value time, ¬ turn.Gives s x value time) ∨
    ∃ x value time, turn.Gives s x value time ∧ (turn.take s).2.cache = left.put time x value

/-! ### Sorting -/

namespace Session

theorem cache_sortOnce (classes : String) (s : Session τ) :
    ((sortOnce classes).apply s).2.cache = ((sortClasses classes).apply s).2.cache := by
  rw [sortOnce, Action.apply_andThen]
  have hstop := outward_stop.cache ((sortClasses classes).apply s).2
  split <;> next heq => rwa [heq] at hstop

theorem kept?_of_fresh (h : s.cache.fresh? s.world.clock x = some value) :
    (kept? x).apply s = (.ok (some value), s.note (cacheHitRecord x)) := by
  simp [kept?, Cache.get, h]

theorem kept?_of_not_fresh (h : s.cache.fresh? s.world.clock x = none) :
    (kept? x).apply s = (.ok none, { s with cache := s.cache.drop x }) := by
  simp [kept?, Cache.get, h]

theorem sortClasses_of_fresh (h : s.cache.fresh? s.world.clock x = some value) :
    (sortClasses x).apply s = (.ok value, s.note (cacheHitRecord x)) := by
  rw [apply_sortClasses, kept?_of_fresh h]

theorem sortClasses_of_not_fresh (h : s.cache.fresh? s.world.clock x = none) :
    (sortClasses x).apply s = (askForOrder x).apply { s with cache := s.cache.drop x } := by
  rw [apply_sortClasses, kept?_of_not_fresh h]

/-- What asking for an order makes of the kept results, and of the results that a start leaves. -/
theorem askForOrder_cases (x : String) (u : Session τ) :
    (∃ fault t, (askForOrder x).apply u = (.error fault, t) ∧
        t.cache = (ensureStarted.apply u).2.cache) ∨
      (∃ result t, (askForOrder x).apply u = (.ok x, t) ∧
        t.cache = (ensureStarted.apply u).2.cache ∧
        u.AskedFor t x result ∧ ∀ sorted, ¬ result.Reads sorted) ∨
      ∃ result sorted t, (askForOrder x).apply u = (.ok sorted, t) ∧
        t.cache = (ensureStarted.apply u).2.cache.put t.world.clock x sorted ∧
        u.AskedFor t x result ∧ result.Reads sorted := by
  have hgrows : Grows u (ensureStarted.apply u).2 :=
    ((lasting_grows u).ensureStarted).apply (.refl u)
  rw [askForOrder_eq, Action.apply_bind]
  generalize ensureStarted.apply u = started at hgrows
  obtain ⟨fault | ⟨⟩, v⟩ := started
  · exact .inl ⟨fault, v, rfl, rfl⟩
  · rcases order_cases x v with ⟨fault, t, hrun, hcache⟩ |
      ⟨result, t, hrun, hcache, hasked, hreads⟩ | ⟨result, sorted, t, hrun, hcache, hasked, hreads⟩
    · exact .inl ⟨fault, t, hrun, hcache⟩
    · exact .inr (.inl ⟨result, t, hrun, hcache, hasked.of_prefix hgrows.passages, hreads⟩)
    · exact .inr (.inr ⟨result, sorted, t, hrun, hcache, hasked.of_prefix hgrows.passages, hreads⟩)

end Session

/-! ### Turns -/

omit [Timeline τ] in
/-- The turns that put class lists in order. -/
theorem Turn.eq_of_sorts {turn : Turn τ} (h : turn.sorts = some x) :
    turn = .call (.sort x) ∨ turn = .call (.sortOnce x) := by
  cases turn with
  | call c => cases c <;> simp_all [sorts]
  | pass time => cases h
  | edit change => cases h
  | act deeds => cases h
  | breakInput fault => cases h

theorem Turn.cache_of_sorts {turn : Turn τ} (h : turn.sorts = some x) :
    (turn.take s).2.cache = ((Session.sortClasses x).apply s).2.cache := by
  rcases Turn.eq_of_sorts h with rfl | rfl
  · exact congrArg Session.cache (Action.snd_apply_bind_pure _ _ s)
  · exact (congrArg Session.cache (Action.snd_apply_bind_pure _ _ s)).trans
      (Session.cache_sortOnce x s)

theorem Turn.preparesFrom_of_sorts {turn : Turn τ} (h : turn.sorts = some x) :
    turn.preparesFrom s =
      match (Session.kept? x).apply s with
      | (.ok none, u) => u.preparesFrom
      | _ => none := by
  have hstarts : turn.preparesFrom s =
      (match (Session.kept? x).apply s with
        | (.ok none, u) => some u
        | _ => none).bind Session.preparesFrom := by
    rcases Turn.eq_of_sorts h with rfl | rfl <;> rfl
  rw [hstarts]
  rcases (Session.kept? x).apply s with ⟨_ | _ | _, _⟩ <;> rfl

omit [Timeline τ] in
theorem Turn.eq_of_sorts_eq {turn : Turn τ} (hy : turn.sorts = some y)
    (hx : turn.sorts = some x) : y = x := Option.some_inj.mp (hy.symm.trans hx)

/-- What a turn gives is what is read out of the result that it obtains. -/
theorem Turn.gives_iff {turn : Turn τ} :
    turn.Gives s x value time ↔
      ∃ result, turn.Obtains s x result value time ∧ result.Reads value := by
  constructor
  · rintro (⟨result, hobtains, hlists⟩ | ⟨result, hobtains, hbegins⟩)
    · exact ⟨result, hobtains, .inl hlists⟩
    · exact ⟨result, hobtains, .inr hbegins⟩
  · rintro ⟨result, hobtains, hlists | hbegins⟩
    · exact .inl ⟨result, hobtains, hlists⟩
    · exact .inr ⟨result, hobtains, hbegins⟩

theorem Turn.Gives.eq_of_sorts {turn : Turn τ} (h : turn.Gives s y value time)
    (hsorts : turn.sorts = some x) : y = x := by
  obtain ⟨result, hobtains, -⟩ := Turn.gives_iff.mp h
  exact Turn.eq_of_sorts_eq hobtains.1 hsorts

/-- A turn obtains one result at the most. -/
theorem Turn.Obtains.result_unique {turn : Turn τ} {result result' : Json} {value' : String}
    {time' : τ} (h : turn.Obtains s x result value time)
    (h' : turn.Obtains s y result' value' time') : result = result' := by
  obtain ⟨hx, t, hrun, -, hasked⟩ := h
  obtain ⟨hy, t', hrun', -, hasked'⟩ := h'
  obtain rfl := Turn.eq_of_sorts_eq hy hx
  rw [hrun] at hrun'
  cases hrun'
  exact hasked.result_unique hasked'

/-- What a turn misreads it does not answer. -/
theorem Turn.Misreads.not_answers {turn : Turn τ} {value' : String} {time' : τ}
    (h : turn.Misreads s x value time) : ¬ turn.Answers s y value' time' := by
  obtain ⟨result, hobtains, hbegins⟩ := h
  rintro ⟨result', hobtains', hlists⟩
  obtain rfl := hobtains.result_unique hobtains'
  exact hbegins.not_lists hlists

/-- A result that is given out stays as it is, and nothing passes. -/
theorem Turn.effect_of_fresh {turn : Turn τ} (h : turn.sorts = some x)
    (hfresh : s.cache.fresh? s.world.clock x = some value) : turn.Effect s s.cache := by
  have hrun := Session.sortClasses_of_fresh hfresh
  have hprepares := Turn.preparesFrom_of_sorts h (s := s)
  rw [Session.kept?_of_fresh hfresh] at hprepares
  refine ⟨Cache.Within.refl _, ?_, .inl ⟨?_, fun y value' time hgives => ?_⟩⟩
  · rintro (⟨rfl, -⟩ | ⟨v, hv, -⟩)
    · cases h
    · rw [hprepares] at hv
      cases hv
  · rw [Turn.cache_of_sorts h, hrun]
    rfl
  · obtain rfl := hgives.eq_of_sorts h
    obtain ⟨result, ⟨-, t, hrun', -, hasked⟩, -⟩ := Turn.gives_iff.mp hgives
    rw [hrun] at hrun'
    cases hrun'
    exact hasked.passages_ne rfl

/-- Without a result to give out, a server is started if need be and then asked; what is read out of
the response, if anything is, joins what the start has left. -/
theorem Turn.effect_of_not_fresh {turn : Turn τ} (h : turn.sorts = some x)
    (hfresh : s.cache.fresh? s.world.clock x = none) :
    turn.Effect s (Session.ensureStarted.apply { s with cache := s.cache.drop x }).2.cache := by
  let u : Session τ := { s with cache := s.cache.drop x }
  have hrun := Session.sortClasses_of_not_fresh hfresh
  have hprepares := Turn.preparesFrom_of_sorts h (s := s)
  rw [Session.kept?_of_not_fresh hfresh] at hprepares
  obtain ⟨hwithin, hrestages⟩ := Session.cache_ensureStarted u
  have hasked {t : Session τ} {result : Json} (hasked : u.AskedFor t x result) :
      s.AskedFor t x result := hasked.of_prefix (List.prefix_refl _)
  refine ⟨hwithin.trans (Cache.within_drop x _), ?_, ?_⟩
  · rintro (⟨rfl, -⟩ | ⟨v, hv, hother⟩)
    · cases h
    · exact hrestages v (hprepares.symm.trans hv) hother
  · rw [Turn.cache_of_sorts h, hrun]
    rcases Session.askForOrder_cases x u with ⟨fault, t, hask, ht⟩ |
      ⟨result, t, hask, ht, hnone, hreads⟩ | ⟨result, sorted, t, hask, ht, hsome, hreads⟩
    · rw [hask]
      refine .inl ⟨ht, fun y value time hgives => ?_⟩
      obtain rfl := hgives.eq_of_sorts h
      obtain ⟨result, ⟨-, t', hrun', -⟩, -⟩ := Turn.gives_iff.mp hgives
      rw [hrun, hask] at hrun'
      cases hrun'
    · rw [hask]
      refine .inl ⟨ht, fun y value time hgives => ?_⟩
      obtain rfl := hgives.eq_of_sorts h
      obtain ⟨result', ⟨-, t', hrun', -, hsome⟩, hreads'⟩ := Turn.gives_iff.mp hgives
      rw [hrun, hask] at hrun'
      cases hrun'
      -- the response that was read last holds one result
      obtain rfl := hsome.result_unique (hasked hnone)
      exact hreads _ hreads'
    · rw [hask]
      refine .inr ⟨x, sorted, t.world.clock, Turn.gives_iff.mpr ⟨result, ?_, hreads⟩, ht⟩
      exact ⟨h, t, hrun.trans hask, rfl, hasked hsome⟩

/-! ### Turns that put nothing in order -/

theorem Turn.not_gives {turn : Turn τ} (hsorts : turn.sorts = none) (x value : String)
    (time : τ) : ¬ turn.Gives s x value time := by
  intro hgives
  obtain ⟨result, ⟨hx, -⟩, -⟩ := Turn.gives_iff.mp hgives
  rw [hsorts] at hx
  cases hx

/-- A turn that leaves the results alone, and neither cleans up nor makes the workspace ready. -/
theorem Turn.effect_of_same {turn : Turn τ} (hsorts : turn.sorts = none)
    (hprepares : turn.preparesFrom s = none) (hcleans : turn ≠ .call .cleanup)
    (hcache : (turn.take s).2.cache = s.cache) : turn.Effect s s.cache := by
  refine ⟨Cache.Within.refl _, ?_, .inl ⟨hcache, Turn.not_gives hsorts⟩⟩
  rintro (⟨rfl, -⟩ | ⟨v, hv, -⟩)
  · exact absurd rfl hcleans
  · rw [hprepares] at hv
    cases hv

/-- A turn that leaves the results as a start leaves them. -/
theorem Turn.effect_of_start {turn : Turn τ} (hsorts : turn.sorts = none)
    (hprepares : turn.preparesFrom s = s.preparesFrom) (hcleans : turn ≠ .call .cleanup)
    (hcache : (turn.take s).2.cache = (Session.ensureStarted.apply s).2.cache) :
    turn.Effect s (Session.ensureStarted.apply s).2.cache := by
  obtain ⟨hwithin, hrestages⟩ := Session.cache_ensureStarted s
  refine ⟨hwithin, ?_, .inl ⟨hcache, Turn.not_gives hsorts⟩⟩
  rintro (⟨rfl, -⟩ | ⟨v, hv, hother⟩)
  · exact absurd rfl hcleans
  · exact hrestages v (hprepares.symm.trans hv) hother

theorem Session.cache_getProject (s : Session τ) :
    (getProject.apply s).2.cache = (ensureStarted.apply s).2.cache := by
  rw [getProject_eq, Action.apply_bind]
  generalize ensureStarted.apply s = started
  obtain ⟨fault | ⟨⟩, t⟩ := started
  · rfl
  · exact outward_askProject.cache t

/-- A cleanup that comes to its end drops every result, and another one none. -/
theorem Session.cleanup_triple (c : Cache τ) :
    Action.Triple (fun s : Session τ => s.cache = c) Session.cleanup
      (fun _ s => s.cache = c.clear) (fun _ s => s.cache = c) := by
  have hleaves {a : Action (Session τ) τ Unit} (ha : a.Leaves results) : a.Leaves Session.cache :=
    Action.Leaves.map ha Prod.fst
  have hremove : (removeWorkspace : Action (Session τ) τ Unit).Leaves results := by
    refine Action.Leaves.get_bind fun s => ?_
    split
    · exact Action.Leaves.ite (withFiles_leaves_results _) (Action.Leaves.pure _)
    · exact Action.Leaves.pure _
  refine Action.Triple.bind (hleaves (leaves_results outward_stop) c) fun _ => ?_
  refine Action.Triple.bind (hleaves (leaves_results outward_abandon) c) fun _ => ?_
  refine Action.Triple.bind (hleaves hremove c) fun _ => ?_
  refine Action.Triple.bind (S := fun _ s => s.cache = c)
    (Action.Triple.modify fun _ hs => hs) fun _ => ?_
  exact Action.Triple.modify fun s hs => congrArg Cache.clear hs

theorem Turn.exists_effect_cleanup (s : Session τ) :
    ∃ left, (Turn.call .cleanup).Effect s left := by
  have hcleanup := Session.cleanup_triple s.cache s rfl
  have hafter := Action.snd_apply_bind_pure Session.cleanup (fun _ => Json.null) s
  split at hcleanup
  · next t heq =>
    rw [heq] at hafter
    exact ⟨s.cache.clear, Cache.within_clear _, fun _ => rfl,
      .inl ⟨(congrArg Session.cache hafter).trans hcleanup, Turn.not_gives rfl⟩⟩
  · -- a cleanup that breaks off counts as none
    next fault t heq =>
    rw [heq] at hafter
    refine ⟨s.cache, Cache.Within.refl _, ?_,
      .inl ⟨(congrArg Session.cache hafter).trans hcleanup, Turn.not_gives rfl⟩⟩
    rintro (⟨-, r, hr⟩ | ⟨v, hv, -⟩)
    · change ((do Session.cleanup; return .null : Action (Session τ) τ Json).apply s).1 = _ at hr
      rw [Action.apply_bind, heq] at hr
      cases hr
    · cases hv

theorem Turn.effect_prepare (s : Session τ) :
    (Turn.call .prepare).Effect s (Session.prepareWorkspace.apply s).2.cache := by
  obtain ⟨hwithin, hrestages⟩ := Session.cache_prepareWorkspace s
  have hcache := congrArg Session.cache
    (Action.snd_apply_bind_pure Session.prepareWorkspace (fun _ => Json.null) s)
  refine ⟨hwithin, ?_, .inl ⟨hcache, Turn.not_gives rfl⟩⟩
  rintro (⟨hcleans, -⟩ | ⟨v, hv, hother⟩)
  · cases hcleans
  · cases hv
    exact hrestages hother

/-- **What a turn makes of the kept results.** -/
theorem Turn.take_cache (s : Session τ) (turn : Turn τ) : ∃ left, turn.Effect s left := by
  have hsort (x : String) (h : turn.sorts = some x) : ∃ left, turn.Effect s left := by
    cases hfresh : s.cache.fresh? s.world.clock x with
    | some value => exact ⟨_, Turn.effect_of_fresh h hfresh⟩
    | none => exact ⟨_, Turn.effect_of_not_fresh h hfresh⟩
  have hcall {a : Action (Session τ) τ Unit} {c : Cache τ} (ha : (a.apply s).2.cache = c) :
      ((do a; return Json.null : Action (Session τ) τ Json).apply s).2.cache = c :=
    (congrArg Session.cache (Action.snd_apply_bind_pure a _ s)).trans ha
  cases turn with
  | pass time => exact ⟨_, Turn.effect_of_same rfl rfl (by simp) rfl⟩
  | edit change => exact ⟨_, Turn.effect_of_same rfl rfl (by simp) rfl⟩
  | act deeds => exact ⟨_, Turn.effect_of_same rfl rfl (by simp) rfl⟩
  | breakInput fault => exact ⟨_, Turn.effect_of_same rfl rfl (by simp) rfl⟩
  | call c =>
    cases c with
    | sort classes => exact hsort classes rfl
    | sortOnce classes => exact hsort classes rfl
    | start => exact ⟨_, Turn.effect_of_start rfl rfl (by simp) (hcall rfl)⟩
    | project => exact ⟨_, Turn.effect_of_start rfl rfl (by simp) (Session.cache_getProject s)⟩
    | stop =>
      exact ⟨_, Turn.effect_of_same rfl rfl (by simp) (hcall (Session.outward_stop.cache s))⟩
    | abandon =>
      exact ⟨_, Turn.effect_of_same rfl rfl (by simp) (hcall (Session.outward_abandon.cache s))⟩
    | prepare => exact ⟨_, Turn.effect_prepare s⟩
    | cleanup => exact Turn.exists_effect_cleanup s

/-- An entry that is there after a turn was given in it or was there before, and then the turn
spares it. -/
theorem Turn.take_entry (s : Session τ) (turn : Turn τ) {e : CacheEntry τ}
    (h : (turn.take s).2.cache.entryOf? key = some e) :
    (∃ x, fingerprint x = key ∧ turn.Gives s x e.value e.created) ∨
      s.cache.entryOf? key = some e ∧ turn.Spares s key := by
  obtain ⟨left, heffect⟩ := turn.take_cache s
  have hspares (hleft : left.entryOf? key = some e)
      (hnone : ∀ x value time, fingerprint x = key → ¬ turn.Gives s x value time) :
      s.cache.entryOf? key = some e ∧ turn.Spares s key := by
    have hnot (hdropped : left.entries = []) : False := by
      rw [Cache.entryOf?, hdropped] at hleft
      cases hleft
    exact ⟨heffect.within.entry hleft, fun hc => hnot (heffect.dropped (.inl hc)),
      fun hr => hnot (heffect.dropped (.inr hr)), hnone⟩
  rcases heffect.kept with ⟨hsame, hnone⟩ | ⟨x, value, time, hgives, hput⟩
  · rw [hsame] at h
    exact .inr (hspares h fun x value time _ => hnone x value time)
  · rw [hput] at h
    by_cases hkey : key = fingerprint x
    · subst hkey
      rw [Cache.entryOf?_put_self, Option.some_inj] at h
      subst h
      exact .inl ⟨x, rfl, hgives⟩
    · -- the only class list that the turn puts in order has another key
      rw [Cache.entryOf?_put_of_ne hkey] at h
      refine .inr (hspares h fun y value' time' hy hgives' => ?_)
      obtain ⟨result, ⟨hx, -⟩, -⟩ := Turn.gives_iff.mp hgives
      have hyx := hgives'.eq_of_sorts hx
      exact hkey (by rw [← hy, hyx])

/-- **A turn that gives nothing** adds no result and changes none. -/
theorem Turn.take_within {turn : Turn τ} (h : ∀ x value time, ¬ turn.Gives s x value time) :
    (turn.take s).2.cache.Within s.cache := by
  obtain ⟨left, heffect⟩ := turn.take_cache s
  rcases heffect.kept with ⟨hsame, -⟩ | ⟨x, value, time, hgives, -⟩
  · rw [hsame]
    exact heffect.within
  · exact absurd hgives (h x value time)

theorem Turn.FailsToSort.not_gives {turn : Turn τ} (h : turn.FailsToSort s) :
    ¬ turn.Gives s x value time := by
  obtain ⟨y, fault, t, hy, hfails⟩ := h
  intro hgives
  obtain ⟨result, ⟨hx, t', hrun, -⟩, -⟩ := Turn.gives_iff.mp hgives
  obtain rfl := Turn.eq_of_sorts_eq hy hx
  rw [hrun] at hfails
  cases hfails

theorem Turn.Unanswered.not_answers {turn : Turn τ} (h : turn.Unanswered s) :
    ¬ turn.Answers s x value time := by
  obtain ⟨y, result, value', time', hobtains, hnone⟩ := h
  rintro ⟨result', hobtains', hlists⟩
  obtain rfl := hobtains.result_unique hobtains'
  exact hnone _ hlists

/-- A turn that misreads has no answer, and keeps what it takes for one. -/
theorem Turn.Misreads.kept {turn : Turn τ} (h : turn.Misreads s x value time) :
    turn.Unanswered s ∧
      (turn.take s).2.cache.entryOf? (fingerprint x) = some ⟨value, time⟩ := by
  obtain ⟨result, hobtains, hbegins⟩ := h
  refine ⟨⟨x, result, value, time, hobtains, fun _ => hbegins.not_lists⟩, ?_⟩
  obtain ⟨left, heffect⟩ := turn.take_cache s
  rcases heffect.kept with ⟨-, hnone⟩ | ⟨y, value', time', hgives, hput⟩
  · exact absurd (.inr ⟨result, hobtains, hbegins⟩) (hnone x value time)
  · obtain ⟨result', ⟨hy, t', hrun', htime', -⟩, -⟩ := Turn.gives_iff.mp hgives
    obtain ⟨hx, t, hrun, htime, -⟩ := hobtains
    obtain rfl := Turn.eq_of_sorts_eq hy hx
    rw [hrun] at hrun'
    cases hrun'
    rw [hput, ← htime', htime, Cache.entryOf?_put_self]

theorem Turn.timeToLive_take (s : Session τ) (turn : Turn τ) :
    (turn.take s).2.cache.timeToLive = s.cache.timeToLive := by
  obtain ⟨left, heffect⟩ := turn.take_cache s
  rcases heffect.kept with ⟨hsame, -⟩ | ⟨x, value, time, -, hput⟩
  · rw [hsame, heffect.within.timeToLive_eq]
  · rw [hput]
    exact heffect.within.timeToLive_eq

/-! ### Runs -/

theorem Session.timeToLive_run (turns : List (Turn τ)) (s : Session τ) :
    (s.run turns).cache.timeToLive = s.cache.timeToLive := by
  induction turns generalizing s with
  | nil => rfl
  | cons turn turns ih => exact (ih _).trans (turn.timeToLive_take s)

/-- **Where a kept result comes from**: from the last turn of a run in which something was read out
of a response about a class list of its key, and every turn since has spared it. -/
theorem Session.run_entry (hs : s.cache.entries = []) (turns : List (Turn τ)) {e : CacheEntry τ}
    (h : (s.run turns).cache.entryOf? key = some e) :
    ∃ earlier turn later x, turns = earlier ++ turn :: later ∧ fingerprint x = key ∧
      turn.Gives (s.run earlier) x e.value e.created ∧
      ∀ between next after, later = between ++ next :: after →
        next.Spares (s.run (earlier ++ turn :: between)) key := by
  induction turns using List.reverseRecOn with
  | nil =>
    rw [run_nil, Cache.entryOf?, hs] at h
    cases h
  | append_singleton turns last ih =>
    rw [run_append] at h
    rcases Turn.take_entry _ last h with ⟨x, hx, hgives⟩ | ⟨hbefore, hspares⟩
    · refine ⟨turns, last, [], x, rfl, hx, hgives, fun between next after heq => ?_⟩
      simp at heq
    · obtain ⟨earlier, turn, later, x, rfl, hx, hgives, hlater⟩ := ih hbefore
      refine ⟨earlier, turn, later ++ [last], x, by simp, hx, hgives,
        fun between next after heq => ?_⟩
      -- the next turn is one of those before, or the last one
      rcases List.eq_nil_or_concat after with rfl | ⟨after', other, rfl⟩
      · obtain ⟨rfl, hlast⟩ := List.append_inj' heq rfl
        rw [List.singleton_inj] at hlast
        exact hlast ▸ hspares
      · have hsplit : later ++ [last] = (between ++ next :: after') ++ [other] := by
          rw [heq]
          simp
        exact hlater between next after' (List.append_inj' hsplit rfl).1

/-- A class list that is put in order without a word to a server was kept and fresh. -/
theorem Session.fresh_of_passages_eq (hrun : (sortClasses x).apply s = (.ok value, t))
    (hpassages : t.passages = s.passages) : s.cache.fresh? s.world.clock x = some value := by
  cases hfresh : s.cache.fresh? s.world.clock x with
  | some kept =>
    rw [sortClasses_of_fresh hfresh] at hrun
    cases hrun
    rfl
  | none =>
    let u : Session τ := { s with cache := s.cache.drop x }
    have hnot {result : Json} (hasked : u.AskedFor t x result) : False :=
      hasked.passages_ne hpassages
    rw [sortClasses_of_not_fresh hfresh] at hrun
    rcases askForOrder_cases x u with ⟨fault, t', hask, -⟩ | ⟨result, t', hask, -, hasked, -⟩ |
      ⟨result, sorted, t', hask, -, hasked, -⟩
    · rw [hask] at hrun
      cases hrun
    · rw [hask] at hrun
      cases hrun
      exact (hnot hasked).elim
    · rw [hask] at hrun
      cases hrun
      exact (hnot hasked).elim

/-- **What is given out without asking is fresh, and genuine unless it was misread.**  Let a class
list be put in order after a run without a word passing between the session and a server, and let no
other class list of the run have its fingerprint.  Then what comes out was read out of the response
of a server in an earlier turn about just this class list, a shorter time ago than results are given
out, and no turn since has cleaned up, has copied another configuration or has had something read
out of a response about the class list.  It is the answer that the server gave in that turn, which
is the first of the class lists that its result lists, exactly if that turn did not take the first
character of a text for one.

All through a run, a turn that puts no class list in order, or fails to, adds no result and changes
none, and so does one that gets no answer, unless it misreads what it gets; and then the class list
that it misreads is kept, as of that time. -/
theorem kept_result_is_genuine_iff (settings : Settings τ) (project : Project) (world : World τ)
    (turns : List (Turn τ)) :
    let s := Session.ofProject settings project world
    (∀ x value t,
      (∀ turn ∈ turns, ∀ y, turn.sorts = some y → fingerprint y = fingerprint x → y = x) →
      (Session.sortClasses x).apply (s.run turns) = (.ok value, t) →
      t.passages = (s.run turns).passages →
      ∃ earlier turn later time, turns = earlier ++ turn :: later ∧
        turn.Gives (s.run earlier) x value time ∧
        (turn.Answers (s.run earlier) x value time ↔
          ¬ turn.Misreads (s.run earlier) x value time) ∧
        (s.run turns).world.clock - time < settings.cacheTtl ∧
        ∀ between next after, later = between ++ next :: after →
          let r := s.run (earlier ++ turn :: between)
          ¬ next.CleansUp r ∧ ¬ next.Restages r ∧
            ∀ value' time', ¬ next.Gives r x value' time') ∧
      ∀ earlier turn, earlier ++ [turn] <+: turns →
        let r := s.run earlier
        (turn.sorts = none ∨ turn.FailsToSort r ∨
            turn.Unanswered r ∧ (∀ x value time, ¬ turn.Misreads r x value time) →
          (s.run (earlier ++ [turn])).cache.Within r.cache) ∧
        ∀ x value time, turn.Misreads r x value time → turn.Unanswered r ∧
          (s.run (earlier ++ [turn])).cache.entryOf? (fingerprint x) = some ⟨value, time⟩ := by
  intro s
  refine ⟨fun x value t hdistinct hrun hpassages => ?_, fun earlier turn _ =>
    ⟨fun hadds => ?_, fun x value time hmisreads => ?_⟩⟩
  · have hfresh := Session.fresh_of_passages_eq hrun hpassages
    obtain ⟨e, hentry, rfl, hyoung⟩ := Cache.fresh?_eq_some hfresh
    obtain ⟨earlier, turn, later, y, hturns, hy, hgives, hlater⟩ :=
      Session.run_entry (s := s) rfl turns hentry
    have hmem : turn ∈ turns := by simp [hturns]
    obtain ⟨result, ⟨hsorts, -⟩, -⟩ := Turn.gives_iff.mp hgives
    obtain rfl := hdistinct turn hmem y hsorts hy
    rw [Session.timeToLive_run] at hyoung
    refine ⟨earlier, turn, later, e.created, hturns, hgives,
      ⟨fun hanswers hmisreads => hmisreads.not_answers hanswers, hgives.resolve_right⟩, hyoung,
      fun between next after heq => ?_⟩
    have hspares := hlater between next after heq
    exact ⟨hspares.not_cleansUp, hspares.not_restages,
      fun v time => hspares.not_gives _ v time rfl⟩
  · rw [Session.run_append]
    refine Turn.take_within fun x value time hgives => ?_
    rcases hadds with hsorts | hfails | ⟨hunanswered, hnone⟩
    · exact Turn.not_gives hsorts x value time hgives
    · exact hfails.not_gives hgives
    · exact hgives.elim hunanswered.not_answers (hnone x value time)
  · rw [Session.run_append]
    exact hmisreads.kept

/-- A session with a project, whose server gives a text in the place of the class lists, and a list
the next time. -/
def spellingSession : Session ℚ :=
  sampleSession ⟨some (.ofString "/w"), some (.ofString "/w/c.js"), none⟩
    ⟨[(["w"], .directory), (["w", "c.js"], .file [97] 1 false)]⟩
    { batches :=
        [(Method.handshake, [[.answer (.object [])]]),
          (Method.sortSelection,
            [[.answer (.object [("classLists", .string "flex p-4")])],
              [.answer (.object [("classLists", .array [.string " a  b"])])]])] }

/-- Two class lists put in order, and some time that goes by. -/
def sortedBefore : List (Turn ℚ) := [.call (.sort "p-4 flex"), .call (.sort "b a"), .pass 2]

/-- Whether a text is in the place of the class lists. -/
def Json.hasText (result : Json) : Bool :=
  match result.fieldOrNull "classLists" with
  | .string _ => true
  | _ => false

theorem Json.Lists.hasText {result : Json} (h : result.Lists value) : result.hasText = false := by
  obtain ⟨-, list, rest, hlist, -⟩ := h
  rw [Json.hasText, (Json.holds_iff.mp hlist).1]

theorem Json.BeginsWith.hasText {result : Json} (h : result.BeginsWith value) :
    result.hasText = true := by
  obtain ⟨-, c, rest, htext, -⟩ := h
  rw [Json.hasText, (Json.holds_iff.mp htext).1]

/-- The turns that put a class list in order, and those before them. -/
theorem sortedBefore_eq {earlier later : List (Turn ℚ)} {turn : Turn ℚ}
    (h : sortedBefore = earlier ++ turn :: later) (hsorts : turn.sorts = some x) :
    x = "p-4 flex" ∧ earlier = [] ∨ x = "b a" ∧ earlier = [.call (.sort "p-4 flex")] := by
  rcases earlier with _ | ⟨first, _ | ⟨second, _ | ⟨third, earlier⟩⟩⟩ <;>
    simp only [sortedBefore, List.nil_append, List.cons_append, List.cons.injEq] at h
  · obtain ⟨rfl, -⟩ := h
    exact .inl ⟨(Option.some_inj.mp hsorts).symm, rfl⟩
  · obtain ⟨rfl, rfl, -⟩ := h
    exact .inr ⟨(Option.some_inj.mp hsorts).symm, rfl⟩
  · obtain ⟨-, -, rfl, -⟩ := h
    cases hsorts
  · simp at h

theorem kept_result_is_genuine_iff_sortedBefore :
    (Session.sortClasses "b a").apply (spellingSession.run sortedBefore) =
        (.ok "a b", (spellingSession.run sortedBefore).note (cacheHitRecord "b a")) ∧
      (Session.sortClasses "p-4 flex").apply (spellingSession.run sortedBefore) =
        (.ok "f", (spellingSession.run sortedBefore).note (cacheHitRecord "p-4 flex")) ∧
      (∃ earlier turn later time, sortedBefore = earlier ++ turn :: later ∧
        turn.Answers (spellingSession.run earlier) "b a" "a b" time ∧
        (spellingSession.run sortedBefore).world.clock - time < 5) ∧
      ∃ earlier turn later time, sortedBefore = earlier ++ turn :: later ∧
        turn.Misreads (spellingSession.run earlier) "p-4 flex" "f" time ∧
        ¬ turn.Answers (spellingSession.run earlier) "p-4 flex" "f" time := by
  have hne : fingerprint "p-4 flex" ≠ fingerprint "b a" := by decide +kernel
  have hdistinct (x : String) (hx : x = "b a" ∨ x = "p-4 flex") : ∀ turn ∈ sortedBefore,
      ∀ y, turn.sorts = some y → fingerprint y = fingerprint x → y = x := by
    intro turn hturn y hy hsame
    obtain ⟨earlier, later, heq⟩ := List.append_of_mem hturn
    rcases sortedBefore_eq heq hy with ⟨rfl, -⟩ | ⟨rfl, -⟩ <;> rcases hx with rfl | rfl
    · exact absurd hsame hne
    · rfl
    · rfl
    · exact absurd hsame.symm hne
  have hpassages (s : Session ℚ) (r : Record) : (s.note r).passages = s.passages := rfl
  -- both results are kept; the first response holds a text, and the second one none
  have hkept :
      let s := spellingSession.run sortedBefore
      s.cache.fresh? s.world.clock "b a" = some "a b" ∧
        s.cache.fresh? s.world.clock "p-4 flex" = some "f" ∧
        (spellingSession.run [.call (.sort "p-4 flex")]).lastResult?.map Json.hasText =
          some true ∧
        (spellingSession.run [.call (.sort "p-4 flex"), .call (.sort "b a")]).lastResult?.map
          Json.hasText = some false := by decide +kernel
  obtain ⟨hfresh, hfresh', htext, hlist⟩ := hkept
  have hsorted : (Session.sortClasses "b a").apply (spellingSession.run sortedBefore) =
      (.ok "a b", (spellingSession.run sortedBefore).note (cacheHitRecord "b a")) :=
    Session.sortClasses_of_fresh hfresh
  have hmisread : (Session.sortClasses "p-4 flex").apply (spellingSession.run sortedBefore) =
      (.ok "f", (spellingSession.run sortedBefore).note (cacheHitRecord "p-4 flex")) :=
    Session.sortClasses_of_fresh hfresh'
  have hnext {x value : String} {s t : Session ℚ} {turns : List (Turn ℚ)}
      (hrun : (Session.sortClasses x).apply (s.run turns) = (.ok value, t)) :
      s.run (turns ++ [.call (.sort x)]) = t := by
    rw [Session.run_append]
    exact (Action.snd_apply_bind_pure _ _ _).trans (congrArg Prod.snd hrun)
  refine ⟨hsorted, hmisread, ?_, ?_⟩
  · unfold spellingSession sampleSession at hsorted hlist ⊢
    obtain ⟨earlier, turn, later, time, hturns, hgives, -, hyoung, -⟩ :=
      (kept_result_is_genuine_iff _ _ _ sortedBefore).1 "b a" "a b" _
        (hdistinct _ (.inl rfl)) hsorted (hpassages _ _)
    refine ⟨earlier, turn, later, time, hturns, hgives.resolve_right ?_, hyoung⟩
    rintro ⟨result, ⟨hsorts, t, hrun, -, hasked⟩, hbegins⟩
    rcases sortedBefore_eq hturns hsorts with ⟨h, -⟩ | ⟨-, rfl⟩
    · exact absurd h (by decide)
    · have hlast := hnext hrun
      rw [List.singleton_append] at hlast
      rw [hlast, hasked.lastResult?, Option.map_some, hbegins.hasText] at hlist
      cases hlist
  · unfold spellingSession sampleSession at hmisread htext ⊢
    obtain ⟨earlier, turn, later, time, hturns, hgives, -, -, -⟩ :=
      (kept_result_is_genuine_iff _ _ _ sortedBefore).1 "p-4 flex" "f" _
        (hdistinct _ (.inr rfl)) hmisread (hpassages _ _)
    rcases hgives with ⟨result, ⟨hsorts, t, hrun, -, hasked⟩, hlists⟩ | hmisreads
    · rcases sortedBefore_eq hturns hsorts with ⟨-, rfl⟩ | ⟨h, -⟩
      · have hlast := hnext hrun
        rw [List.nil_append] at hlast
        rw [hlast, hasked.lastResult?, Option.map_some, hlists.hasText] at htext
        cases htext
      · exact absurd h (by decide)
    · exact ⟨earlier, turn, later, time, hturns, hmisreads, hmisreads.not_answers⟩

end ClassOrder
