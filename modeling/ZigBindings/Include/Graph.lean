import ZigBindings.Include.Walk

/-!
# Include graphs

What the repositories at the sources include, as a look-up or as a finite table. A walk through a
table never goes deeper than the number of its sources, since it does not take up a source twice.
-/

namespace ZigBindings

abbrev Links := String → Option (List Include)

def Links.Edge (links : Links) (source target : String) : Prop :=
  ∃ includes, links source = some includes ∧ ∃ entry ∈ includes, entry.source = target

abbrev IncludeGraph := List (String × List Include)

namespace IncludeGraph

def links (graph : IncludeGraph) : Links := fun source =>
  graph.lookup source

def depth (graph : IncludeGraph) : Nat :=
  graph.length + 1

/-- Looks sources up in the table and keeps a record of what it was asked for. -/
def recording (graph : IncludeGraph) : Walk.Resolver (List String) := fun source => do
  modify (· ++ [source])
  match graph.links source with
  | some includes => return includes
  | none => throw (.because (.reported .files "no such repository" [("path", .text source)]))

end IncludeGraph

end ZigBindings
