import ZigBindings.Markup.Tree

/-!
# Children in groups

The children of an element may be put in groups by their tags. Whatever the order of the groups,
the children with one tag are found again, in the order which they have among themselves.
-/

namespace ZigBindings

open ZigBindings.Markup

/-- Children in groups, each under a tag of its own. -/
abbrev Shelves : Type :=
  List (ExpandedName × List Node)

/-- Groups that can be told apart by the tags of their nodes. -/
structure Shelves.IsProper (shelves : Shelves) : Prop where
  distinct : (shelves.map Prod.fst).Nodup
  tagged : ∀ shelf ∈ shelves, ∀ node ∈ shelf.2, node.tag? = some shelf.1

variable {shelves : Shelves} {tag : ExpandedName} {nodes : List Node}

theorem filter_shelves (proper : shelves.IsProper) (own : (tag, nodes) ∈ shelves) :
    (shelves.flatMap Prod.snd).filter (fun node => node.tag? = some tag) = nodes := by
  obtain ⟨distinct, tagged⟩ := proper
  induction shelves with
  | nil => cases own
  | cons shelf rest ih =>
      obtain ⟨here, others⟩ := List.forall_mem_cons.mp tagged
      rw [List.map_cons, List.nodup_cons] at distinct
      rw [List.flatMap_cons, List.filter_append]
      rcases List.mem_cons.mp own with rfl | later
      · have elsewhere :
            (rest.flatMap Prod.snd).filter (fun node => node.tag? = some tag) = [] := by
          rw [List.filter_eq_nil_iff]
          intro node member
          obtain ⟨other, inside, held⟩ := List.mem_flatMap.mp member
          rw [decide_eq_true_eq, others other inside node held]
          intro same
          exact distinct.1 (List.mem_map.mpr ⟨other, inside, Option.some.inj same⟩)
        rw [elsewhere, List.append_nil, List.filter_eq_self]
        exact fun node member => by simp [here node member]
      -- The tag belongs to one of the later groups and so to none of the nodes of this one.
      · have apart : shelf.2.filter (fun node => node.tag? = some tag) = [] := by
          rw [List.filter_eq_nil_iff]
          intro node member
          rw [decide_eq_true_eq, here node member]
          intro same
          exact distinct.1 (List.mem_map.mpr ⟨_, later, (Option.some.inj same).symm⟩)
        rw [apart, List.nil_append]
        exact ih later distinct.2 others

end ZigBindings
