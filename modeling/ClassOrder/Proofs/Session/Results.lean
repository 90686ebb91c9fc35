import ClassOrder.Proofs.Session.Asking

/-!
# Kept results

A result is kept when a server has given it, and given out again while it is fresh.  Results are
dropped one by one when they have grown old, and all together when a changed configuration has been
copied to the workspace and when the session has been cleaned up.

## Main definitions

* `Cache.entryOf?`, `Cache.Within` — the entry under a key, and a cache with no other entries.
* `Session.Restaged` — every result has been dropped for another configuration.

## Main results

* `results_prepareWorkspace` — making the workspace ready drops every result or none.
* `cache_ensureStarted` — what is left of the results after a start.
-/

namespace ClassOrder

open ClassOrder.Action (Keeps Leaves Triple)

variable {τ : Type}

/-! ### Entries -/

namespace Cache

variable {c d : Cache τ} {key text value : String} {e : CacheEntry τ}

/-- The entry under a key. -/
def entryOf? (c : Cache τ) (key : String) : Option (CacheEntry τ) := Assoc.get? key c.entries

/-- Every entry of the first cache is one of the second. -/
structure Within (c d : Cache τ) : Prop where
  timeToLive_eq : c.timeToLive = d.timeToLive
  entry : ∀ {key e}, c.entryOf? key = some e → d.entryOf? key = some e

theorem Within.refl (c : Cache τ) : Within c c := ⟨rfl, id⟩

theorem within_of_eq (h : c = d) : Within c d := h ▸ .refl c

theorem within_clear (c : Cache τ) : Within c.clear c := ⟨rfl, fun h => by cases h⟩

theorem within_drop (text : String) (c : Cache τ) : Within (c.drop text) c := by
  refine ⟨rfl, fun {key e} h => ?_⟩
  rw [entryOf?, drop] at h
  dsimp only at h
  rw [Assoc.get?_filter (· != fingerprint text)] at h
  split at h
  · exact h
  · cases h

theorem entryOf?_drop_self (text : String) (c : Cache τ) :
    (c.drop text).entryOf? (fingerprint text) = none := by
  rw [entryOf?, drop, Assoc.get?_filter (· != fingerprint text)]
  simp

theorem Within.trans {b : Cache τ} (h : Within b c) (h' : Within c d) : Within b d :=
  ⟨h.timeToLive_eq.trans h'.timeToLive_eq, fun hentry => h'.entry (h.entry hentry)⟩

@[simp] theorem entryOf?_put_self (now : τ) (text value : String) (c : Cache τ) :
    (c.put now text value).entryOf? (fingerprint text) = some ⟨value, now⟩ :=
  Assoc.get?_put_self _ _ _

theorem entryOf?_put_of_ne (h : key ≠ fingerprint text) (now : τ) (value : String) (c : Cache τ) :
    (c.put now text value).entryOf? key = c.entryOf? key :=
  Assoc.get?_put_of_ne h _ _

theorem fresh?_eq_some [Timeline τ] {now : τ} (h : c.fresh? now text = some value) :
    ∃ e, c.entryOf? (fingerprint text) = some e ∧ e.value = value ∧
      now - e.created < c.timeToLive := by
  unfold fresh? at h
  rw [entryOf?]
  split at h
  · cases h
  · next e heq =>
    split at h
    · next hfresh => exact ⟨e, heq, by simpa using h, hfresh⟩
    · cases h

end Cache

/-! ### Making the workspace ready -/

namespace Session

variable {s t u v : Session τ}

/-- What is kept: the results, and the configuration that they go with. -/
def results (s : Session τ) : Cache τ × Option Snapshot := (s.cache, s.snapshot)

/-- Every result has been dropped, and another configuration been taken down. -/
def Restaged (r : Cache τ × Option Snapshot) (s : Session τ) : Prop :=
  s.cache = r.1.clear ∧ s.snapshot ≠ r.2

theorem leaves_results {α : Type} {a : Action (Session τ) τ α} (h : Outward a) :
    a.Leaves results := Leaves.map h fun p => (p.cache, p.snapshot)

theorem withFiles_leaves_results (change : FileTree → Place → Except SystemFault FileTree) :
    (withFiles change : Action (Session τ) τ Unit).Leaves results := by
  refine Leaves.of_apply fun s => ?_
  rw [withFiles, Action.apply_ofFun]
  dsimp only
  split <;> rfl

theorem stageDirectory_leaves_results :
    (stageDirectory : Action (Session τ) τ Path).Leaves results := by
  have hcreate : (createStaging : Action (Session τ) τ Path).Leaves results :=
    Leaves.get_bind fun _ => Leaves.bind (withFiles_leaves_results _) fun _ =>
      Leaves.bind (Leaves.modify fun _ => rfl) fun _ =>
        Leaves.bind (leaves_results (outward_log _)) fun _ => Leaves.pure _
  refine Leaves.get_bind fun s => ?_
  split
  · exact Leaves.ite (Leaves.pure _) hcreate
  · exact hcreate

theorem stageStandard_leaves_results (directory : Path) :
    (stageStandard directory : Action (Session τ) τ Unit).Leaves results :=
  Leaves.get_bind fun _ => Leaves.ite
    (Leaves.bind (leaves_results (outward_log _)) fun _ =>
      Leaves.bind (withFiles_leaves_results _) fun _ =>
        Leaves.bind (withFiles_leaves_results _) fun _ => Leaves.modify fun _ => rfl)
    (Leaves.modify fun _ => rfl)

/-- Copying the project drops every result once it is done, and none before. -/
theorem copyProject_triple (directory config : Path) (stylesheet : Option Path) (time : Int)
    (r : Cache τ × Option Snapshot) (hnew : ∀ content, r.2 ≠ some ⟨config, time, content⟩) :
    Triple (fun s => s.results = r)
      (copyProject directory config stylesheet time : Action (Session τ) τ Unit)
      (fun _ => Restaged r) (fun _ s => s.results = r) := by
  have hend : Triple (fun s => s.results = r) (do
      let content ← readText config
      modify fun s => { s with snapshot := some ⟨config, time, content⟩ }
      dropResults : Action (Session τ) τ Unit)
      (fun _ => Restaged r) (fun _ s => s.results = r) := by
    refine Triple.bind (leaves_results (outward_readText config) r) fun content => ?_
    refine Triple.bind (S := fun _ s => s.cache = r.1 ∧ s.snapshot = some ⟨config, time, content⟩)
      (Triple.modify fun s hs => ⟨congrArg Prod.fst hs, rfl⟩) fun _ => ?_
    refine Triple.modify fun s ⟨hcache, hsnapshot⟩ => ⟨congrArg Cache.clear hcache, ?_⟩
    exact fun heq => hnew content (heq.symm.trans hsnapshot)
  refine Triple.bind (leaves_results (outward_log _) r) fun _ =>
    Triple.bind (withFiles_leaves_results _ r) fun _ => ?_
  cases stylesheet with
  | none => exact hend
  | some sheet =>
    refine Triple.get_bind fun s hs => Triple.ite (fun _ => ?_) fun _ => ?_
    · exact Triple.bind ((withFiles_leaves_results _ r).pre fun t ht => ht ▸ hs) fun _ => hend
    · exact hend.pre fun t ht => ht ▸ hs

theorem snapshot_ne_of_not_isStaged {config : Path} {time : Int}
    (h : ¬ s.isStaged config time = true) (content : String) :
    s.snapshot ≠ some ⟨config, time, content⟩ := by
  intro heq
  simp [isStaged, heq] at h

/-- **Making the workspace ready drops every result or none**, and every one exactly if another
configuration has been taken down. -/
theorem results_prepareWorkspace (v : Session τ) :
    (prepareWorkspace.apply v).2.results = v.results ∨
      Restaged v.results (prepareWorkspace.apply v).2 := by
  let r := v.results
  have hstage (directory config : Path) (stylesheet : Option Path) :
      Triple (fun s => s.results = r)
        (stageProject directory config stylesheet : Action (Session τ) τ Unit)
        (fun _ s => s.results = r ∨ Restaged r s) (fun _ s => s.results = r) := by
    refine Triple.bind (leaves_results (outward_configTime config) r) fun time => ?_
    refine Triple.get_bind fun s hs => Triple.ite (fun hstaged => ?_) fun _ => ?_
    · -- a configuration is copied only if it is not the one remembered
      have hnew (content : String) : r.2 ≠ some ⟨config, time, content⟩ := by
        rw [← hs]
        exact snapshot_ne_of_not_isStaged (by simpa using hstaged) content
      refine Triple.bind ((copyProject_triple directory config stylesheet time r hnew).pre
        fun t ht => ht ▸ hs) fun _ => Triple.modify fun t ht => .inr ht
    · exact Triple.modify fun t ht => .inl (ht ▸ hs)
  have hprepare : Triple (fun s => s.results = r) (prepareWorkspace : Action (Session τ) τ Unit)
      (fun _ s => s.results = r ∨ Restaged r s) (fun _ s => s.results = r) := by
    refine Triple.bind (stageDirectory_leaves_results r) fun directory => ?_
    have hdocument : (stageDocument directory : Action (Session τ) τ Unit).Leaves results :=
      Leaves.get_bind fun _ => Leaves.ite (withFiles_leaves_results _) (Leaves.pure _)
    refine Triple.bind (hdocument r) fun _ => Triple.get_bind fun s hs => ?_
    dsimp only
    cases s.project.config with
    | some config => exact (hstage _ _ _).pre fun t ht => ht ▸ hs
    | none =>
      exact Triple.conseq (stageStandard_leaves_results directory r) (fun t ht => ht ▸ hs)
        (fun _ _ ht => .inl ht) fun _ _ ht => ht
  have hrun := hprepare v rfl
  split at hrun
  · next heq => rwa [heq]
  · next heq =>
    rw [heq]
    exact .inl hrun

/-- The configuration that a start copied to the workspace is another one than before. -/
def Restages (u : Session τ) : Prop := (prepareWorkspace.apply u).2.snapshot ≠ u.snapshot

theorem cache_prepareWorkspace (v : Session τ) :
    (prepareWorkspace.apply v).2.cache.Within v.cache ∧
      (v.Restages → (prepareWorkspace.apply v).2.cache.entries = []) := by
  rcases results_prepareWorkspace v with hsame | ⟨hclear, hother⟩
  · refine ⟨Cache.within_of_eq (congrArg Prod.fst hsame), fun hrestages => ?_⟩
    exact absurd (congrArg Prod.snd hsame) hrestages
  · rw [hclear]
    exact ⟨Cache.within_clear _, fun _ => rfl⟩

/-- A start drops results, and keeps none if it copies another configuration. -/
theorem cache_ensureStarted [Timeline τ] (u : Session τ) :
    (ensureStarted.apply u).2.cache.Within u.cache ∧
      ∀ v, preparesFrom u = some v → v.Restages → (ensureStarted.apply u).2.cache.entries = [] := by
  have hcache := congrArg Premises.cache (premises_ensureStarted u)
  change (ensureStarted.apply u).2.cache = _ at hcache
  cases hprepares : preparesFrom u with
  | none =>
    rw [hprepares] at hcache
    exact ⟨Cache.within_of_eq hcache, fun v hv => by cases hv⟩
  | some v =>
    rw [hprepares] at hcache
    have hsame : v.cache = u.cache := congrArg Premises.cache (premises_preparesFrom hprepares)
    obtain ⟨hwithin, hrestages⟩ := cache_prepareWorkspace v
    change _ = (prepareWorkspace.apply v).2.cache at hcache
    rw [hcache]
    refine ⟨hsame ▸ hwithin, fun w hw => ?_⟩
    cases hw
    exact hrestages

end Session

end ClassOrder
