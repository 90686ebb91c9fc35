import ClassOrder.Assoc
import ClassOrder.Cache.Fingerprint
import ClassOrder.Log.Record
import ClassOrder.Timeline

/-!
# Cached results

Results are kept under the fingerprint of the text they belong to, each with the time at which it
was stored.  A result is given out while it is younger than the time to live; one that has grown
older is dropped when it is asked for.

## Main definitions

* `Cache` — the results, in the order in which their texts were first stored.
* `Cache.fresh?` — the result for a text that is young enough.
* `Cache.get`, `Cache.put`, `Cache.contains`, `Cache.clear` — the operations.
-/

namespace ClassOrder

/-- A stored result. -/
structure CacheEntry (τ : Type) where
  /-- The result. -/
  value : String
  /-- When it was stored. -/
  created : τ
  deriving Repr

/-- Results by fingerprint. -/
structure Cache (τ : Type) where
  /-- How long a result is given out. -/
  timeToLive : τ
  /-- The results. -/
  entries : List (String × CacheEntry τ) := []

namespace Cache

variable {τ : Type}

/-- The number of results kept. -/
def size (c : Cache τ) : Nat := c.entries.length

/-- Whether a result for a text is kept, young enough or not. -/
def contains (c : Cache τ) (text : String) : Bool :=
  (Assoc.get? (fingerprint text) c.entries).isSome

/-- Keeps a result for a text. -/
def put (now : τ) (text value : String) (c : Cache τ) : Cache τ :=
  { c with entries := Assoc.put (fingerprint text) ⟨value, now⟩ c.entries }

/-- Drops the result for a text. -/
def drop (text : String) (c : Cache τ) : Cache τ :=
  { c with entries := c.entries.filter fun e => e.1 != fingerprint text }

/-- Drops every result. -/
def clear (c : Cache τ) : Cache τ := { c with entries := [] }

@[simp] theorem size_clear (c : Cache τ) : c.clear.size = 0 := rfl

@[simp] theorem contains_clear (c : Cache τ) (text : String) : c.clear.contains text = false := rfl

@[simp] theorem contains_put (now : τ) (text value : String) (c : Cache τ) :
    (c.put now text value).contains text = true := by
  simp [contains, put]

variable [Timeline τ]

/-- The result for a text, if one is kept that is young enough. -/
def fresh? (now : τ) (text : String) (c : Cache τ) : Option String :=
  match Assoc.get? (fingerprint text) c.entries with
  | none => none
  | some entry => if now - entry.created < c.timeToLive then some entry.value else none

/-- The result for a text that is young enough, and the cache afterwards: one that was kept and
has grown older is dropped. -/
def get (now : τ) (text : String) (c : Cache τ) : Option String × Cache τ :=
  match c.fresh? now text with
  | some value => (some value, c)
  | none => (none, c.drop text)

end Cache

/-- The log entry of a result that is given out again. -/
def cacheHitRecord (text : String) : Record := ⟨.debug, "Cache hit for classes: " ++ text⟩

/-- The log entry of dropping every result, if there are any. -/
def Cache.clearRecord? {τ : Type} (c : Cache τ) : Option Record :=
  if c.entries.isEmpty then none
  else some ⟨.debug, "Clearing " ++ toString c.size ++ " cached results"⟩

end ClassOrder
