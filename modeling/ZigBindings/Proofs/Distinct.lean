import Mathlib.Data.List.Nodup
import Mathlib.Data.List.Perm.Basic

/-!
# Lists without repeats

When what is taken from the items of a list is different for all of them, told by what is known to
be different already or by the kinds of what is taken.
-/

namespace ZigBindings

variable {α β γ : Type}

theorem nodup_map_iff {items : List α} {name : α → β} {mark : α → γ}
    (names : (items.map name).Nodup) :
    (items.map mark).Nodup ↔
      ∀ first ∈ items, ∀ second ∈ items, mark first = mark second → name first = name second := by
  constructor
  · intro marks first member second member' same
    rw [List.inj_on_of_nodup_map marks member member' same]
  · intro apart
    refine (names.of_map name).map_on fun first member second member' same => ?_
    exact List.inj_on_of_nodup_map names member member' (apart first member second member' same)

theorem nodup_pairs_iff (items : List α) (first second : α → β) :
    (items.flatMap fun item => [first item, second item]).Nodup ↔
      (items.map first).Nodup ∧ (items.map second).Nodup ∧
        ∀ item ∈ items, ∀ other ∈ items, first item ≠ second other := by
  have sorted := List.map_append_flatMap_perm items first fun item => [second item]
  rw [← List.map_eq_flatMap] at sorted
  rw [← sorted.nodup_iff, List.nodup_append]
  simp

end ZigBindings
