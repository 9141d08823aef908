import ZigBindings.Proofs.Generation.Underway
import ZigBindings.Proofs.Include.Preorder

/-!
# Module texts by the include graph alone

The header of a module can be made from a table of what repositories include, by a walk that reads
nothing and writes nothing. A generation makes the same header, whatever it loads and writes on the
way: once all that a repository leads to has been registered, the texts of its modules are fixed.
-/

namespace ZigBindings

theorem Course.elsewhere {links other : Links} {visiting seen after : List String}
    {includes order : List Include} {ending : Ending}
    (course : Course links visiting seen includes order after ending)
    (agree : ∀ source ∈ sourcesOf order, other source = links source) :
    Course other visiting seen includes order after ending := by
  induction course with
  | done => exact .done
  | passed known _ ih => exact .passed known (ih agree)
  | closed fresh open_ => exact .closed fresh open_
  | refused fresh shut => exact .refused fresh shut
  | broken fresh shut found _ stopped ih =>
      refine .broken fresh shut ((agree _ (by simp)).trans found) (ih ?_) stopped
      exact fun source below => agree source (by simp [below])
  | taken fresh shut found _ _ ihInner ihOuter =>
      simp only [sourcesOf, List.map_cons, List.map_append] at agree ihInner ihOuter
      refine .taken fresh shut ((agree _ (by simp)).trans found) (ihInner ?_) (ihOuter ?_)
      · exact fun source below => agree source (by simp [below])
      · exact fun source later => agree source (by simp [later])

namespace IncludeGraph

/-- The import lines that a table gives the module of a namespace in a repository with the given
includes, unless the walk through the table is stopped. -/
def header? (graph : IncludeGraph) (name : String) (includes : List Include) :
    Option (List String) :=
  match Walk.afresh (Walk.header graph.recording graph.depth name includes) [] with
  | .ok lines _ => some lines
  | .error _ _ => none

theorem header_of_course {graph : IncludeGraph} {includes order : List Include}
    {seen : List String} (course : Course graph.links [] [] includes order seen .finished)
    (name : String) : graph.header? name includes = some (Generator.headerLines name order) := by
  have total : ∀ source, graph.links.Met [] includes source → (graph.links source).isSome := by
    intro source met
    have taken := course.order_subset rfl (course.mem_order_iff.mpr met)
    obtain ⟨inner, found, _⟩ := course.finished_closed taken (by simp)
    simp [found]
  obtain ⟨order', seen', ⟨course', emitted⟩ | ⟨cycle, course', _⟩⟩ :=
    emit_recording_cases (Nat.le_refl graph.depth) { outer := [] } rfl total
  · have same := course'.is_preorder.unique course.is_preorder
    subst same
    have made : Walk.header graph.recording graph.depth name includes { outer := [] } =
        .ok (Generator.headerLines name order')
          (Walk.moved { outer := [] } order' seen' (sourcesOf order')) := by
      have ended := @Walk.header_of_ok _ graph.recording _ includes { outer := [] } _ name emitted
      simpa [Walk.moved, Generator.headerLines] using ended
    simp only [header?, Walk.afresh, made]
  · obtain ⟨_, first, _, met, around⟩ := course'.cycle_met
    exact absurd around (course.no_cycle met)

end IncludeGraph

namespace Run

variable {τ : Type} {run before after : Run τ}

def graph (run : Run τ) : IncludeGraph :=
  run.registry.map fun entry => (entry.1, entry.2.repository.includes)

theorem graph_links (run : Run τ) (source : String) :
    run.graph.links source = (run.registered? source).map fun loaded =>
      loaded.repository.includes := by
  unfold graph IncludeGraph.links registered?
  induction run.registry with
  | nil => rfl
  | cons entry rest ih =>
      rw [List.map_cons, List.lookup_cons, List.lookup_cons]
      cases source == entry.1 with
      | true => rfl
      | false => exact ih

theorem Grown.graph_le (grown : before.Grown after) (source : String) (includes : List Include)
    (found : before.graph.links source = some includes) :
    after.graph.links source = some includes := by
  rw [graph_links] at found ⊢
  obtain ⟨loaded, known, same⟩ := Option.map_eq_some_iff.mp found
  rw [grown source loaded known]
  exact congrArg some same

/-- The text of the module of a namespace as bytes, with the header that the registered
repositories alone give it. -/
def moduleBytes? (run : Run τ) (repository : Repository) (space : Namespace) :
    Option (List UInt8) :=
  (run.graph.header? space.name repository.includes).map fun lines =>
    Text.utf8Bytes (space.moduleText (lines ++ [""])).toList

/-- Bytes that are the text of a module, told by the course that the walk for its header takes
through the registered repositories. -/
def Renders (run : Run τ) (repository : Repository) (space : Namespace)
    (content : List UInt8) : Prop :=
  ∃ order seen, Course run.graph.links [] [] repository.includes order seen .finished ∧
    content = Text.utf8Bytes
      (space.moduleText (Generator.headerLines space.name order ++ [""])).toList

variable {repository : Repository} {space : Namespace} {content : List UInt8}

theorem Renders.bytes (renders : run.Renders repository space content) :
    run.moduleBytes? repository space = some content := by
  obtain ⟨order, seen, course, rfl⟩ := renders
  rw [moduleBytes?, IncludeGraph.header_of_course course]
  rfl

theorem Renders.grown (renders : before.Renders repository space content)
    (grown : before.Grown after) : after.Renders repository space content := by
  obtain ⟨order, seen, course, same⟩ := renders
  exact ⟨order, seen, course.mono grown.graph_le, same⟩

/-- Runs in which no name stands for different repositories give a module the same text. -/
theorem Renders.unique {other : Run τ} {text : List UInt8} {links : Links}
    (renders : run.Renders repository space content) (again : other.Renders repository space text)
    (here : ∀ source includes, run.graph.links source = some includes →
      links source = some includes)
    (there : ∀ source includes, other.graph.links source = some includes →
      links source = some includes) : content = text := by
  obtain ⟨order, seen, course, rfl⟩ := renders
  obtain ⟨order', seen', course', rfl⟩ := again
  rw [(course.mono here).is_preorder.unique (course'.mono there).is_preorder]

theorem renders_of_course {links : Links} {order : List Include} {seen : List String}
    (course : Course links [] [] repository.includes order seen .finished)
    (known : ∀ source ∈ ZigBindings.sourcesOf order, (run.registered? source).isSome)
    (drawn : ∀ source includes, run.graph.links source = some includes →
      links source = some includes) (space : Namespace) :
    run.Renders repository space (Text.utf8Bytes
      (space.moduleText (Generator.headerLines space.name order ++ [""])).toList) := by
  refine ⟨order, seen, course.elsewhere fun source member => ?_, rfl⟩
  obtain ⟨loaded, registered⟩ := Option.isSome_iff_exists.mp (known source member)
  have found : run.graph.links source = some loaded.repository.includes := by
    rw [graph_links, registered]
    rfl
  rw [found, drawn source _ found]

end Run

theorem Generator.Underway.graph_le {generator : Generator} {start run : Generation}
    {scope : String → Prop} (under : generator.Underway start scope run) (source : String)
    (includes : List Include) (found : run.graph.links source = some includes) :
    start.links generator.input source = some includes := by
  rw [Run.graph_links] at found
  obtain ⟨loaded, known, rfl⟩ := Option.map_eq_some_iff.mp found
  simp [Run.links, under.drawn source loaded known]

end ZigBindings
