import ClassOrder.Proofs.ExactTime
import ClassOrder.Proofs.Session.Results
import Mathlib.Data.Finset.Card
import Mathlib.Data.List.Induction
import Mathlib.Data.Set.Function

/-!
# The history of a cache

What a cache gives out can be told from what has been done with it: the result for a text is the
latest that was stored since all results were dropped, as long as it is young enough.  A cache
drops a result that has grown old only when it is asked for, so what it keeps, and how much, depends
on when it was asked as well.

The results for one text are followed on their own: what is done with another text does not matter
to them, unless the two have one fingerprint.

## Main definitions

* `Cache.Use`, `Cache.run` — what is done with a cache, and what comes of it.
* `Cache.Latest` — which result was stored for a text the latest.
* `Cache.Remains` — it has not been asked for too late.
* `Cache.Forward` — the clock has not gone back.

## Main results

* `Cache.entryOf?_apply` — what one use does to the result for a text.
* `Cache.entryOf?_run` — a result is kept exactly if it is the latest and remains.
* `Cache.run_history` — **what a cache gives out, what it keeps and how much, told from its
  history.**
-/

namespace ClassOrder

/-- Time passed since some moment does not shrink as the clock goes on, so that what is too old
stays too old. -/
def Timeline.Steady (τ : Type) [Timeline τ] : Prop :=
  ∀ a b since age : τ, a ≤ b → b - since < age → a - since < age

theorem Timeline.steady_rat : Timeline.Steady ℚ := fun _ _ since _ hle hlt =>
  lt_of_le_of_lt (sub_le_sub_right hle since) hlt

namespace Assoc

variable {κ α : Type} [DecidableEq κ] {key other : κ} {entries : List (κ × α)}

theorem isSome_get?_iff : (get? key entries).isSome = true ↔ key ∈ entries.map (·.1) := by
  induction entries with
  | nil => simp
  | cons e entries ih =>
    by_cases hkey : e.1 = key
    · simp [get?, hkey]
    · simpa [get?, hkey, Ne.symm hkey] using ih

theorem mem_keys_put (v : α) :
    other ∈ (put key v entries).map (·.1) ↔ other = key ∨ other ∈ entries.map (·.1) := by
  by_cases hother : other = key
  · subst hother
    simp [← isSome_get?_iff]
  · simp [← isSome_get?_iff, get?_put_of_ne hother, hother]

theorem nodup_put (h : (entries.map (·.1)).Nodup) (key : κ) (v : α) :
    ((put key v entries).map (·.1)).Nodup := by
  induction entries with
  | nil => simp
  | cons e entries ih =>
    rw [List.map_cons, List.nodup_cons] at h
    rw [put]
    split
    · rw [List.map_cons, List.nodup_cons]
      exact h
    · next hne =>
      rw [List.map_cons, List.nodup_cons, mem_keys_put]
      exact ⟨not_or.mpr ⟨hne, h.1⟩, ih h.2⟩

end Assoc

namespace Cache

variable {τ : Type} {c : Cache τ} {text value : String} {stored : τ}

/-- What is done with a cache, with the time on the clock where it is read. -/
inductive Use (τ : Type) where
  /-- The result for a text is asked for. -/
  | get (now : τ) (text : String)
  /-- A result for a text is stored. -/
  | put (now : τ) (text value : String)
  /-- It is asked whether there is a result for a text. -/
  | contains (text : String)
  /-- All results are dropped. -/
  | clear

namespace Use

/-- The text that a use is about. -/
def text? : Use τ → Option String
  | get _ text => some text
  | put _ text _ => some text
  | contains text => some text
  | clear => none

/-- The time on the clock, where it is read. -/
def moment? : Use τ → Option τ
  | get now _ => some now
  | put now _ _ => some now
  | contains _ => none
  | clear => none

/-- Whether a use is about a text, or about all of them. -/
def isAbout (text : String) (u : Use τ) : Bool := u.text?.all (· == text)

/-- After such a use, a result that was stored for a text earlier counts no longer. -/
def Supersedes (text : String) (u : Use τ) : Prop :=
  u = clear ∨ ∃ now value, u = put now text value

end Use

/-- The result that was stored for a text the latest, since all results were dropped, when it was
stored, and what was done afterwards. -/
def Latest (uses : List (Use τ)) (text value : String) (stored : τ) (after : List (Use τ)) : Prop :=
  ∃ before, uses = before ++ .put stored text value :: after ∧ ∀ u ∈ after, ¬ u.Supersedes text

variable {uses after : List (Use τ)} {u : Use τ}

/-- The latest result is the one stored last, or still the latest from before if the last use does
not supersede it. -/
theorem latest_concat : Latest (uses ++ [u]) text value stored after ↔
    (u = .put stored text value ∧ after = []) ∨
      ¬ u.Supersedes text ∧ ∃ rest, after = rest ++ [u] ∧ Latest uses text value stored rest := by
  constructor
  · rintro ⟨before, heq, hafter⟩
    rcases List.eq_nil_or_concat' after with rfl | ⟨rest, last, rfl⟩
    · obtain ⟨-, hu⟩ := List.append_inj' heq rfl
      exact .inl ⟨(List.cons.inj hu).1, rfl⟩
    · rw [← List.cons_append, ← List.append_assoc] at heq
      obtain ⟨huses, hu⟩ := List.append_inj' heq rfl
      obtain rfl : u = last := (List.cons.inj hu).1
      exact .inr ⟨hafter u (by simp), rest, rfl, before, huses,
        fun u hu => hafter u (List.mem_append_left _ hu)⟩
  · rintro (⟨rfl, rfl⟩ | ⟨hu, rest, rfl, before, rfl, hrest⟩)
    · exact ⟨uses, rfl, fun u hu => absurd hu List.not_mem_nil⟩
    · refine ⟨before, by simp, fun v hv => ?_⟩
      rcases List.mem_append.mp hv with hv | hv
      · exact hrest v hv
      · rw [List.mem_singleton.mp hv]
        exact hu

/-- The uses are about texts with fingerprints of their own. -/
def Apart (text : String) (uses : List (Use τ)) : Prop :=
  ∀ u ∈ uses, ∀ other, u.text? = some other → fingerprint other = fingerprint text → other = text

theorem Apart.of_subset {uses' : List (Use τ)} (h : Apart text uses) (hsub : uses' ⊆ uses) :
    Apart text uses' := fun u hu => h u (hsub hu)

theorem entryOf?_drop_of_ne {key : String} (h : key ≠ fingerprint text) (c : Cache τ) :
    (c.drop text).entryOf? key = c.entryOf? key := by
  rw [entryOf?, drop, Assoc.get?_filter (· != fingerprint text), entryOf?,
    if_pos (by simpa using h)]

theorem contains_iff (c : Cache τ) (text : String) :
    c.contains text = true ↔
      ∃ value stored, c.entryOf? (fingerprint text) = some ⟨value, stored⟩ := by
  rw [contains, ← entryOf?, Option.isSome_iff_exists]
  constructor
  · rintro ⟨e, he⟩
    exact ⟨e.value, e.created, he⟩
  · rintro ⟨value, stored, he⟩
    exact ⟨_, he⟩

variable [Timeline τ]

/-- The latest result for a text, with the time when it was stored, was young enough whenever it was
asked for. -/
def Remains (age : τ) (uses : List (Use τ)) (text value : String) (stored : τ) : Prop :=
  ∃ after, Latest uses text value stored after ∧
    ∀ later, .get later text ∈ after → later - stored < age

/-- The clock does not go back from one reading to the next. -/
def Forward (uses : List (Use τ)) : Prop := (uses.filterMap Use.moment?).Pairwise (· ≤ ·)

/-- What a use leaves of a cache. -/
def Use.apply (c : Cache τ) : Use τ → Cache τ
  | .get now text => (c.get now text).2
  | .put now text value => c.put now text value
  | .contains _ => c
  | .clear => c.clear

/-- What is left of a cache after some uses. -/
def run (c : Cache τ) (uses : List (Use τ)) : Cache τ := uses.foldl Use.apply c

variable {now age : τ}

@[simp] theorem run_nil (c : Cache τ) : c.run [] = c := rfl

theorem run_concat (c : Cache τ) (uses : List (Use τ)) (u : Use τ) :
    c.run (uses ++ [u]) = u.apply (c.run uses) := by
  rw [run, List.foldl_append]
  rfl

/-! ### One text -/

/-- What a use makes of the result for a text. -/
def Use.onEntry (age : τ) (text : String) :
    Use τ → Option (CacheEntry τ) → Option (CacheEntry τ)
  | .get now other, e => if other = text then e.filter (now - ·.created < age) else e
  | .put now other value, e => if other = text then some ⟨value, now⟩ else e
  | .contains _, e => e
  | .clear, _ => none

theorem fresh?_eq (c : Cache τ) (now : τ) (text : String) :
    c.fresh? now text =
      ((c.entryOf? (fingerprint text)).filter (now - ·.created < c.timeToLive)).map (·.value) := by
  rw [fresh?, ← entryOf?]
  cases c.entryOf? (fingerprint text) with
  | none => rfl
  | some e => by_cases hfresh : now - e.created < c.timeToLive <;> simp [hfresh]

theorem get_fst (c : Cache τ) (now : τ) (text : String) :
    (c.get now text).1 = c.fresh? now text := by
  rw [get]
  split
  · next hfresh => rw [hfresh]
  · next hfresh => rw [hfresh]

/-- A result that is asked for stays if it is young enough, and is dropped otherwise. -/
theorem entryOf?_get_self (c : Cache τ) (now : τ) (text : String) :
    (c.get now text).2.entryOf? (fingerprint text) =
      (c.entryOf? (fingerprint text)).filter (now - ·.created < c.timeToLive) := by
  have hfresh := fresh?_eq c now text
  rw [get]
  split
  · next value hvalue =>
    rw [hvalue, eq_comm, Option.map_eq_some_iff] at hfresh
    obtain ⟨e, he, -⟩ := hfresh
    rw [he, (Option.filter_eq_some_iff.mp he).1]
  · next hnone =>
    rw [hnone, eq_comm, Option.map_eq_none_iff] at hfresh
    rw [entryOf?_drop_self, hfresh]

theorem entryOf?_get_of_ne {key : String} (h : key ≠ fingerprint text) (now : τ) (c : Cache τ) :
    (c.get now text).2.entryOf? key = c.entryOf? key := by
  rw [get]
  split
  · rfl
  · exact entryOf?_drop_of_ne h c

/-- The age to which results are given out is never changed. -/
@[simp] theorem timeToLive_apply (c : Cache τ) (u : Use τ) :
    (u.apply c).timeToLive = c.timeToLive := by
  cases u with
  | get now text =>
    rw [Use.apply, get]
    split <;> rfl
  | put => rfl
  | contains => rfl
  | clear => rfl

@[simp] theorem timeToLive_run (c : Cache τ) (uses : List (Use τ)) :
    (c.run uses).timeToLive = c.timeToLive := by
  induction uses using List.reverseRecOn with
  | nil => rfl
  | append_singleton uses u ih => rw [run_concat, timeToLive_apply, ih]

/-- **What one use does to the result for a text** is told from that result alone, if no other text
that the use is about has the same fingerprint. -/
theorem entryOf?_apply (hdistinct : ∀ other, u.text? = some other →
      fingerprint other = fingerprint text → other = text) :
    (u.apply c).entryOf? (fingerprint text) =
      u.onEntry c.timeToLive text (c.entryOf? (fingerprint text)) := by
  cases u with
  | get now other =>
    rw [Use.apply, Use.onEntry]
    split
    · next heq =>
      subst heq
      exact entryOf?_get_self c now other
    · next hne =>
      exact entryOf?_get_of_ne (fun heq => hne (hdistinct other rfl heq.symm)) now c
  | put now other value =>
    rw [Use.apply, Use.onEntry]
    split
    · next heq =>
      subst heq
      exact entryOf?_put_self now other value c
    · next hne =>
      exact entryOf?_put_of_ne (fun heq => hne (hdistinct other rfl heq.symm)) now value c
  | contains other => rfl
  | clear => rfl

/-- A use that is not about a text leaves the result for it. -/
theorem Use.onEntry_of_not_isAbout (h : u.isAbout text = false) (e : Option (CacheEntry τ)) :
    u.onEntry age text e = e := by
  cases u with
  | get now other =>
    have hne : other ≠ text := by simpa [isAbout, text?] using h
    exact if_neg hne
  | put now other value =>
    have hne : other ≠ text := by simpa [isAbout, text?] using h
    exact if_neg hne
  | contains other => rfl
  | clear => cases h

/-- What is done with other texts does not matter. -/
theorem entryOf?_run_filter (hapart : Apart text uses) :
    (c.run (uses.filter (·.isAbout text))).entryOf? (fingerprint text) =
      (c.run uses).entryOf? (fingerprint text) := by
  induction uses using List.reverseRecOn with
  | nil => rfl
  | append_singleton uses u ih =>
    have hlast := hapart u (by simp)
    have hbefore := ih (hapart.of_subset (List.subset_append_left _ _))
    rw [List.filter_append, run_concat, entryOf?_apply hlast, timeToLive_run]
    cases habout : u.isAbout text with
    | true =>
      rw [List.filter_cons_of_pos habout, List.filter_nil, run_concat, entryOf?_apply hlast,
        timeToLive_run, hbefore]
    | false =>
      rw [List.filter_cons_of_neg (by simp [habout]), List.filter_nil, List.append_nil, hbefore,
        Use.onEntry_of_not_isAbout habout]

/-! ### The latest result -/

/-- A result remains after one more use exactly if the use stores it, or if it has remained so far
and the use neither supersedes it nor asks for it too late. -/
theorem remains_concat : Remains age (uses ++ [u]) text value stored ↔
    u = .put stored text value ∨ ¬ u.Supersedes text ∧ Remains age uses text value stored ∧
      ∀ later, u = .get later text → later - stored < age := by
  constructor
  · rintro ⟨after, hlatest, hyoung⟩
    rcases latest_concat.mp hlatest with ⟨hu, -⟩ | ⟨hu, rest, rfl, hrest⟩
    · exact .inl hu
    · refine .inr ⟨hu, ⟨rest, hrest, fun later hl => hyoung later (List.mem_append_left _ hl)⟩, ?_⟩
      rintro later rfl
      exact hyoung later (by simp)
  · rintro (hu | ⟨hu, ⟨rest, hrest, hyoung⟩, hasked⟩)
    · exact ⟨[], latest_concat.mpr (.inl ⟨hu, rfl⟩), fun _ hl => absurd hl List.not_mem_nil⟩
    · refine ⟨rest ++ [u], latest_concat.mpr (.inr ⟨hu, rest, rfl, hrest⟩), fun later hl => ?_⟩
      rcases List.mem_append.mp hl with hl | hl
      · exact hyoung later hl
      · exact hasked later (List.mem_singleton.mp hl).symm

/-- The step of the history is the step of the result. -/
theorem Use.onEntry_eq_some {e : Option (CacheEntry τ)} :
    u.onEntry age text e = some ⟨value, stored⟩ ↔
      u = .put stored text value ∨ ¬ u.Supersedes text ∧ e = some ⟨value, stored⟩ ∧
        ∀ later, u = .get later text → later - stored < age := by
  cases u with
  | get now other =>
    by_cases hother : other = text
    · simp [onEntry, Supersedes, hother, Option.filter_eq_some_iff]
    · simp [onEntry, Supersedes, hother]
  | put now other value' =>
    by_cases hother : other = text
    · simp [onEntry, Supersedes, hother, and_comm]
    · simp [onEntry, Supersedes, hother]
  | contains other => simp [onEntry, Supersedes]
  | clear => simp [onEntry, Supersedes]

/-- **A result is kept exactly if it is the latest and remains**, in a cache that was empty at
first. -/
theorem entryOf?_run (hc : c.entries = []) (hapart : Apart text uses) :
    (c.run uses).entryOf? (fingerprint text) = some ⟨value, stored⟩ ↔
      Remains c.timeToLive uses text value stored := by
  induction uses using List.reverseRecOn with
  | nil => simp [entryOf?, hc, Remains, Latest]
  | append_singleton uses u ih =>
    rw [run_concat, entryOf?_apply (hapart u (by simp)), timeToLive_run, Use.onEntry_eq_some,
      remains_concat, ih (hapart.of_subset (List.subset_append_left _ _))]

/-- A result that was stored the latest and is young enough now was so whenever it was asked for. -/
theorem Latest.remains (hlatest : Latest uses text value stored after)
    (hsteady : Timeline.Steady τ) (hclock : Forward (uses ++ [.get now text]))
    (hyoung : now - stored < age) : Remains age uses text value stored := by
  refine ⟨after, hlatest, fun later hlater => hsteady later now stored age ?_ hyoung⟩
  have hmem : Use.get later text ∈ uses := by
    obtain ⟨before, rfl, -⟩ := hlatest
    exact List.mem_append_right _ (List.mem_cons_of_mem _ hlater)
  rw [Forward, List.filterMap_append, List.pairwise_append] at hclock
  exact hclock.2.2 later (List.mem_filterMap.mpr ⟨_, hmem, rfl⟩) now (by simp [Use.moment?])

/-! ### How much is kept -/

theorem nodup_apply (h : (c.entries.map (·.1)).Nodup) (u : Use τ) :
    ((u.apply c).entries.map (·.1)).Nodup := by
  cases u with
  | get now text =>
    rw [Use.apply, get]
    split
    · exact h
    · exact h.sublist (List.filter_sublist.map _)
  | put now text value => exact Assoc.nodup_put h _ _
  | contains text => exact h
  | clear => exact List.nodup_nil

theorem nodup_run (h : (c.entries.map (·.1)).Nodup) (uses : List (Use τ)) :
    ((c.run uses).entries.map (·.1)).Nodup := by
  induction uses using List.reverseRecOn with
  | nil => exact h
  | append_singleton uses u ih =>
    rw [run_concat]
    exact nodup_apply ih u

/-- What is kept after a use was kept before, or is kept for the text that the use is about. -/
theorem entry_of_apply {key : String} {e : CacheEntry τ} (h : (u.apply c).entryOf? key = some e) :
    c.entryOf? key = some e ∨ ∃ text, u.text? = some text ∧ fingerprint text = key := by
  by_cases habout : ∃ text, u.text? = some text ∧ fingerprint text = key
  · exact .inr habout
  · have hne (text : String) (htext : u.text? = some text) : key ≠ fingerprint text :=
      fun heq => habout ⟨text, htext, heq.symm⟩
    cases u with
    | get now text => exact .inl ((entryOf?_get_of_ne (hne text rfl) now c).symm.trans h)
    | put now text value =>
      exact .inl ((entryOf?_put_of_ne (hne text rfl) now value c).symm.trans h)
    | contains text => exact .inl h
    | clear => cases h

/-- What is kept is kept for a text that the cache was used for. -/
theorem entry_of_run {key : String} {e : CacheEntry τ} (hc : c.entries = [])
    (h : (c.run uses).entryOf? key = some e) :
    ∃ u ∈ uses, ∃ text, u.text? = some text ∧ fingerprint text = key := by
  induction uses using List.reverseRecOn generalizing e with
  | nil => simp [entryOf?, hc] at h
  | append_singleton uses u ih =>
    rw [run_concat] at h
    rcases entry_of_apply h with hbefore | habout
    · obtain ⟨v, hv, hkey⟩ := ih hbefore
      exact ⟨v, List.mem_append_left _ hv, hkey⟩
    · exact ⟨u, by simp, habout⟩

/-- As many results are kept as there are texts with one. -/
theorem exists_kept (hc : c.entries = []) {keys : Set String} (hkeys : Set.InjOn fingerprint keys)
    (huses : ∀ u ∈ uses, ∀ text, u.text? = some text → text ∈ keys) :
    ∃ kept : Finset String, (∀ text ∈ kept, text ∈ keys) ∧
      (∀ text ∈ keys, text ∈ kept ↔ (c.run uses).contains text = true) ∧
        (c.run uses).size = kept.card := by
  let texts := (uses.filterMap Use.text?).toFinset
  have htexts (text : String) : text ∈ texts ↔ ∃ u ∈ uses, u.text? = some text := by simp [texts]
  let kept := texts.filter fun text => (c.run uses).contains text = true
  have hin : ∀ text ∈ kept, text ∈ keys := by
    intro text htext
    obtain ⟨u, hu, heq⟩ := (htexts text).mp (Finset.mem_filter.mp htext).1
    exact huses u hu text heq
  have hall (key : String) (hkey : ((c.run uses).entryOf? key).isSome = true) :
      ∃ text ∈ texts, fingerprint text = key := by
    obtain ⟨e, he⟩ := Option.isSome_iff_exists.mp hkey
    obtain ⟨u, hu, text, htext, hprint⟩ := entry_of_run hc he
    exact ⟨text, (htexts text).mpr ⟨u, hu, htext⟩, hprint⟩
  refine ⟨kept, hin, fun text htext => ⟨fun h => (Finset.mem_filter.mp h).2, fun hcontains => ?_⟩,
    ?_⟩
  · obtain ⟨other, hother, hprint⟩ := hall _ hcontains
    obtain ⟨u, hu, heq⟩ := (htexts other).mp hother
    obtain rfl := hkeys (huses u hu other heq) htext hprint
    exact Finset.mem_filter.mpr ⟨hother, hcontains⟩
  · -- the fingerprints of these texts are the keys of the entries
    have hnodup : ((c.run uses).entries.map (·.1)).Nodup := nodup_run (by simp [hc]) uses
    have himage : ((c.run uses).entries.map (·.1)).toFinset = kept.image fingerprint := by
      ext key
      rw [List.mem_toFinset, ← Assoc.isSome_get?_iff, Finset.mem_image]
      constructor
      · intro hkey
        obtain ⟨text, htext, rfl⟩ := hall key hkey
        exact ⟨text, Finset.mem_filter.mpr ⟨htext, hkey⟩, rfl⟩
      · rintro ⟨text, htext, rfl⟩
        exact (Finset.mem_filter.mp htext).2
    rw [size, ← List.length_map (·.1), ← List.toFinset_card_of_nodup hnodup, himage]
    exact Finset.card_image_of_injOn fun text htext other hother =>
      hkeys (hin text htext) (hin other hother)

/-! ### The whole history -/

/-- **What a cache gives out, what it keeps and how much, told from its history.**  Let a cache be
empty at first and be used for texts that all have fingerprints of their own.  A text that is asked
for, on a clock that has not gone back, gets a result exactly if that is the latest that was stored
for it since all results were dropped, and was stored a shorter time ago than results are given out.
A result is kept for a text exactly if there is a latest one and it was young enough whenever it was
asked for; as many are kept as there are such texts.  What is done with other texts makes no
difference to a text. -/
theorem run_history (hsteady : Timeline.Steady τ) (age : τ) (keys : Set String)
    (hkeys : Set.InjOn fingerprint keys) (uses : List (Use τ))
    (huses : ∀ u ∈ uses, ∀ text, u.text? = some text → text ∈ keys) :
    let empty : Cache τ := { timeToLive := age }
    let c := empty.run uses
    (∀ text ∈ keys, ∀ now, Forward (uses ++ [.get now text]) → ∀ value,
      (c.get now text).1 = some value ↔
        ∃ stored after, Latest uses text value stored after ∧ now - stored < age) ∧
      (∀ text ∈ keys, c.contains text = true ↔
        ∃ value stored, Remains age uses text value stored) ∧
      (∃ kept : Finset String,
        (∀ text, text ∈ kept ↔ ∃ value stored, Remains age uses text value stored) ∧
          c.size = kept.card) ∧
      ∀ text ∈ keys,
        let alone := empty.run (uses.filter (·.isAbout text))
        (∀ now, (c.get now text).1 = (alone.get now text).1) ∧
          c.contains text = alone.contains text := by
  intro empty c
  -- texts with fingerprints of their own never share an entry
  have hapart (text : String) (htext : text ∈ keys) : Apart text uses :=
    fun u hu other hother hprint => hkeys (huses u hu other hother) htext hprint
  have hentry (text value : String) (stored : τ) (htext : text ∈ keys) :
      c.entryOf? (fingerprint text) = some ⟨value, stored⟩ ↔
        Remains age uses text value stored := entryOf?_run rfl (hapart text htext)
  have hcontains (text : String) (htext : text ∈ keys) : c.contains text = true ↔
      ∃ value stored, Remains age uses text value stored := by
    simp only [contains_iff, hentry text _ _ htext]
  have hlive : c.timeToLive = age := timeToLive_run empty uses
  refine ⟨fun text htext now hclock value => ?_, hcontains, ?_, fun text htext => ?_⟩
  · rw [get_fst, fresh?_eq, hlive, Option.map_eq_some_iff]
    constructor
    · rintro ⟨⟨value, stored⟩, he, rfl⟩
      obtain ⟨he, hyoung⟩ := Option.filter_eq_some_iff.mp he
      obtain ⟨after, hlatest, -⟩ := (hentry text value stored htext).mp he
      exact ⟨stored, after, hlatest, by simpa using hyoung⟩
    · rintro ⟨stored, after, hlatest, hyoung⟩
      -- the latest result was young enough for every look since, as the clock went forward
      have hremains := hlatest.remains hsteady hclock hyoung
      have he := (hentry text value stored htext).mpr hremains
      exact ⟨⟨value, stored⟩, Option.filter_eq_some_iff.mpr ⟨he, by simpa using hyoung⟩, rfl⟩
  · obtain ⟨kept, hin, hkept, hsize⟩ := exists_kept (c := empty) rfl hkeys huses
    refine ⟨kept, fun text => ⟨fun htext => ?_, fun hremains => ?_⟩, hsize⟩
    · exact (hcontains text (hin text htext)).mp ((hkept text (hin text htext)).mp htext)
    · have htext : text ∈ keys := by
        obtain ⟨value, stored, after, ⟨before, heq, -⟩, -⟩ := hremains
        exact huses (.put stored text value) (by simp [heq]) text rfl
      exact (hkept text htext).mpr ((hcontains text htext).mpr hremains)
  · have halone := entryOf?_run_filter (c := empty) (hapart text htext)
    refine ⟨fun now => ?_, ?_⟩
    · rw [get_fst, get_fst, fresh?_eq, fresh?_eq, halone, hlive, timeToLive_run]
    · rw [contains, contains, ← entryOf?, ← entryOf?, halone]

/-- A result that grows old at the very moment when it is asked for and is stored anew, and one that
grows old without being asked for. -/
def renewedUses : List (Use ℚ) :=
  [.put 0 "a" "x", .put 1 "b" "y", .get 3 "a", .put 4 "a" "z", .contains "b"]

theorem run_history_renewedUses :
    Timeline.Steady ℚ ∧ Set.InjOn fingerprint {"a", "b"} ∧
      (∀ u ∈ renewedUses, ∀ text, u.text? = some text → text ∈ ({"a", "b"} : Set String)) ∧
      Forward (renewedUses ++ [.get 6 "a"]) ∧
      let c := ({ timeToLive := 3 } : Cache ℚ).run renewedUses
      (c.get 6 "a").1 = some "z" ∧ (c.get 6 "b").1 = none ∧ c.contains "b" = true ∧ c.size = 2 := by
  have hkeys : Set.InjOn fingerprint {"a", "b"} := by
    have hne : fingerprint "a" ≠ fingerprint "b" := by decide +kernel
    rintro text (rfl | rfl) other (rfl | rfl) hprint
    · rfl
    · exact absurd hprint hne
    · exact absurd hprint.symm hne
    · rfl
  have huses : ∀ u ∈ renewedUses, ∀ text, u.text? = some text →
      text ∈ ({"a", "b"} : Set String) := by
    simp [renewedUses, Use.text?]
  have hclock : Forward (renewedUses ++ [.get 6 "a"]) := by
    change List.Pairwise (· ≤ ·) ([0, 1, 3, 4, 6] : List ℚ)
    norm_num
  have hlatest : Latest renewedUses "a" "z" 4 [.contains "b"] :=
    ⟨[.put 0 "a" "x", .put 1 "b" "y", .get 3 "a"], rfl, by simp [Use.Supersedes]⟩
  obtain ⟨hget, -⟩ := run_history Timeline.steady_rat 3 {"a", "b"} hkeys renewedUses huses
  refine ⟨Timeline.steady_rat, hkeys, huses, hclock, ?_, by decide +kernel, by decide +kernel,
    by decide +kernel⟩
  exact (hget "a" (by simp) 6 hclock "z").mpr ⟨4, _, hlatest, by norm_num⟩

end Cache

end ClassOrder
