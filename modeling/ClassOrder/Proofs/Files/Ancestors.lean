import ClassOrder.Files.Host
import Mathlib.Data.List.Induction

/-!
# The places above a place

A search that begins at a place goes up from it, one name at a time, until it comes to the root of
the tree.  Of the places with a property, the one that it comes to first is the nearest: all the
others lie above it.

## Main definitions

* `Nearest` — the nearest place with a property, at or above a place.

## Main results

* `ancestors_concat` — what a search goes on to from a place.
* `mem_ancestors` — the places that it comes past.
* `nearest_concat` — **the nearest place is the one where the search stands, or is nearest to the
  place above.**
-/

namespace ClassOrder

variable {P : Place → Prop} {start place other : Place} {name : String}

theorem ancestors_concat (place : Place) (name : String) :
    ancestors (place ++ [name]) = (place ++ [name]) :: ancestors place := by
  have hshorter (k : ℕ) : (place ++ [name]).take (place.length + 1 - (k + 1)) =
      place.take (place.length - k) := by
    rw [Nat.add_sub_add_right, List.take_append_of_le_length (Nat.sub_le _ _)]
  rw [ancestors, ancestors, List.length_append, List.length_singleton,
    List.range_succ_eq_map (n := place.length + 1), List.map_cons, List.map_map]
  refine congrArg₂ List.cons ?_ (List.map_congr_left fun k _ => hshorter k)
  exact List.take_of_length_le (by simp)

/-- A search from a place comes past the places at or above it: by induction on the place, from its
last name upwards. -/
theorem mem_ancestors : other ∈ ancestors place ↔ other <+: place := by
  induction place using List.reverseRecOn with
  | nil => simp [ancestors]
  | append_singleton place name ih =>
    rw [ancestors_concat, List.mem_cons, ih, List.prefix_concat_iff]

/-- The nearest place with a property, at or above `start`: every other one lies above it. -/
structure Nearest (P : Place → Prop) (start place : Place) : Prop where
  above : place <+: start
  holds : P place
  farther : ∀ other, other <+: start → P other → other <+: place

theorem Nearest.unique (h : Nearest P start place) (h' : Nearest P start other) :
    place = other := by
  have hle := (h'.farther place h.above h.holds).length_le
  exact (h.farther other h'.above h'.holds).eq_of_length_le hle |>.symm

theorem nearest_self (h : P start) : Nearest P start start :=
  ⟨List.prefix_refl start, h, fun _ hother _ => hother⟩

/-- A place without the property is passed by. -/
theorem nearest_concat (h : ¬ P (start ++ [name])) :
    Nearest P (start ++ [name]) place ↔ Nearest P start place := by
  -- what lies at or above the longer place and has the property lies above it
  have habove (other : Place) (hother : P other) :
      other <+: start ++ [name] ↔ other <+: start := by
    rw [List.prefix_concat_iff]
    refine or_iff_right ?_
    rintro rfl
    exact h hother
  constructor
  · intro hnear
    refine ⟨(habove place hnear.holds).mp hnear.above, hnear.holds, fun other hother hholds => ?_⟩
    exact hnear.farther other ((habove other hholds).mpr hother) hholds
  · intro hnear
    refine ⟨(habove place hnear.holds).mpr hnear.above, hnear.holds, fun other hother hholds => ?_⟩
    exact hnear.farther other ((habove other hholds).mp hother) hholds

end ClassOrder
