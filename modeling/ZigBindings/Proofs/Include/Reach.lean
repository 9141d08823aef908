import Mathlib.Data.List.Chain
import Mathlib.Logic.Relation
import ZigBindings.Include.Graph

/-!
# Reachability and cycles

Which sources a list of includes leads to, with some sources left out, and what a cycle of includes
is. Nothing here mentions a walk: these are the notions that a walk is compared with.
-/

namespace ZigBindings

namespace Links

abbrev Reaches (links : Links) : String → String → Prop :=
  Relation.TransGen links.Edge

def EdgeOutside (links : Links) (passed : List String) (source target : String) : Prop :=
  links.Edge source target ∧ target ∉ passed

/-- The sources that includes lead to along paths on which no source is left out. -/
inductive Met (links : Links) (passed : List String) (includes : List Include) : String → Prop
  | direct {entry : Include} (listed : entry ∈ includes) (outside : entry.source ∉ passed) :
      Met links passed includes entry.source
  | onward {source target : String} (met : Met links passed includes source)
      (edge : links.EdgeOutside passed source target) : Met links passed includes target

/-- A list of sources that goes once around: each includes the next, only the first and the last
are the same. -/
structure IsCycle (links : Links) (cycle : List String) : Prop where
  long : 2 ≤ cycle.length
  closed : cycle.head? = cycle.getLast?
  distinct : cycle.dropLast.Nodup
  linked : cycle.IsChain links.Edge

variable {links : Links}

theorem edge_of_links {source : String} {includes : List Include} {entry : Include}
    (found : links source = some includes) (listed : entry ∈ includes) :
    links.Edge source entry.source :=
  ⟨includes, found, entry, listed, rfl⟩

theorem reaches_mono {larger : Links}
    (more : ∀ source includes, links source = some includes → larger source = some includes)
    {source target : String} (reaches : links.Reaches source target) :
    larger.Reaches source target := by
  have edges : links.Edge ≤ larger.Edge := fun _ _ ⟨includes, found, listed⟩ =>
    ⟨includes, more _ _ found, listed⟩
  exact Relation.TransGen.mono edges _ _ reaches

theorem edge_outside_nothing : links.EdgeOutside [] = links.Edge := by
  funext source target
  simp [EdgeOutside]

theorem reaches_outside_nothing {source target : String} :
    Relation.TransGen (links.EdgeOutside []) source target ↔ links.Reaches source target := by
  rw [edge_outside_nothing]

theorem Met.not_passed {passed : List String} {includes : List Include} {source : String}
    (met : links.Met passed includes source) : source ∉ passed := by
  cases met with
  | direct _ outside => exact outside
  | onward _ edge => exact edge.2

theorem Met.weaken {passed fewer : List String} {includes more : List Include} {source : String}
    (met : links.Met passed includes source) (smaller : ∀ name ∈ fewer, name ∈ passed)
    (larger : ∀ entry ∈ includes, entry ∈ more) : links.Met fewer more source := by
  induction met with
  | direct listed outside =>
      exact .direct (larger _ listed) fun inside => outside (smaller _ inside)
  | onward _ edge ih =>
      exact .onward ih ⟨edge.1, fun inside => edge.2 (smaller _ inside)⟩

theorem Met.through {passed : List String} {includes inner : List Include} {source target : String}
    (met : links.Met passed includes source) (found : links source = some inner)
    (beyond : links.Met passed inner target) : links.Met passed includes target := by
  induction beyond with
  | direct listed outside => exact .onward met ⟨edge_of_links found listed, outside⟩
  | onward _ edge ih => exact .onward ih edge

theorem met_iff_reaches {source target : String} {includes : List Include}
    (found : links source = some includes) :
    links.Met [] includes target ↔ links.Reaches source target := by
  constructor
  · intro met
    induction met with
    | direct listed _ => exact .single (edge_of_links found listed)
    | onward _ edge ih => exact .tail ih edge.1
  · intro reaches
    induction reaches with
    | single edge =>
        obtain ⟨inner, same, entry, listed, rfl⟩ := edge
        rw [found] at same
        cases same
        exact .direct listed (by simp)
    | tail _ edge ih => exact .onward ih ⟨edge, by simp⟩

theorem Met.mem_of_closed {passed : List String} {includes : List Include} {source : String}
    (met : links.Met passed includes source) (inside : String → Prop)
    (start : ∀ entry ∈ includes, entry.source ∉ passed → inside entry.source)
    (step : ∀ name target, inside name → links.EdgeOutside passed name target → inside target) :
    inside source := by
  induction met with
  | direct listed outside => exact start _ listed outside
  | onward _ edge ih => exact step _ _ ih edge

/-- The sources from which the outer includes lead on only finitely often. -/
abbrev Grounded (links : Links) (passed : List String) : String → Prop :=
  Acc fun target source => links.EdgeOutside passed source target

theorem Grounded.not_on_cycle {passed : List String} {source : String}
    (grounded : links.Grounded passed source) :
    ¬Relation.TransGen (links.EdgeOutside passed) source source := by
  intro cycle
  have backwards : Relation.TransGen (Function.swap (links.EdgeOutside passed)) source source :=
    Relation.transGen_swap.mpr cycle
  have accessible := grounded.transGen
  clear grounded cycle
  induction accessible with
  | intro source _ ih => exact ih source backwards backwards

theorem IsCycle.returns {cycle passed : List String} (around : links.IsCycle cycle)
    (outside : ∀ name ∈ cycle, name ∉ passed) :
    ∃ first ∈ cycle, cycle.head? = some first ∧
      Relation.TransGen (links.EdgeOutside passed) first first := by
  have linked : cycle.IsChain (links.EdgeOutside passed) :=
    around.linked.imp_of_mem_imp fun _ target _ member edge => ⟨edge, outside target member⟩
  have long := around.long
  have closed := around.closed
  match cycle with
  | [] => simp at long
  | [_] => simp at long
  | first :: second :: rest =>
      refine ⟨first, by simp, rfl, ?_⟩
      obtain ⟨edge, chain⟩ := List.isChain_cons_cons.mp linked
      refine .head' edge (List.relationReflTransGen_of_exists_isChain_cons rest chain ?_)
      rw [List.head?_cons, List.getLast?_cons_cons] at closed
      rw [List.getLast?_eq_some_getLast (List.cons_ne_nil second rest)] at closed
      exact (Option.some.inj closed).symm

end Links

end ZigBindings
