import ZigBindings.Proofs.Include.Walk

/-!
# Cycles of includes

A header is refused exactly if a cycle of includes can be reached, and then the cycle that is named
is one. Repositories that are included from several sides are no cycle, and a cycle behind a
finished subtree does not exist. Whatever the graph, making a header comes to an end and asks for no
source twice.
-/

namespace ZigBindings

open Walk

theorem header_outer {σ : Type} {resolve : Resolver σ} (depth : Nat) (name : String)
    (includes : List Include) (walk : Walk σ) :
    (stateOf (header resolve depth name includes walk)).outer =
      (stateOf (emitWithin resolve depth includes { walk with seen := [], lines := [] })).outer := by
  rw [header_apply]
  cases emitWithin resolve depth includes _ <;> rfl

theorem settle_outer {σ : Type} (walk : Walk σ) (order : List Include) (seen : List String)
    (outside : EStateM.Result Stop σ Unit) :
    (stateOf (walk.settle order seen outside)).outer = stateOf outside := by
  cases outside <;> rfl

/-- Making a header asks for no source twice and is never stopped for want of depth. If all sources
that can be reached are there, it stops exactly if a cycle can be reached, and names such a cycle. -/
theorem import_cycles_reported (graph : IncludeGraph) (depth : Nat) (deep : graph.depth ≤ depth)
    (name : String) (includes : List Include) (walk : Walk (List String))
    (idle : walk.visiting = []) :
    (∃ asked, (stateOf (header graph.recording depth name includes walk)).outer =
        walk.outer ++ asked ∧ asked.Nodup) ∧
      (∀ after, header graph.recording depth name includes walk ≠ .error .tooDeep after) ∧
      ((∀ source, graph.links.Met [] includes source → (graph.links source).isSome) →
        ((∃ cycle after, header graph.recording depth name includes walk =
            .error (.because (.cycle cycle)) after) ↔
          ∃ source, graph.links.Met [] includes source ∧ graph.links.Reaches source source) ∧
        ∀ stop after, header graph.recording depth name includes walk = .error stop after →
          ∃ cycle, stop = .because (.cycle cycle) ∧ graph.links.IsCycle cycle ∧
            ∃ first ∈ cycle.head?, graph.links.Met [] includes first) := by
  refine ⟨?_, ?_, fun total => ?_⟩
  · obtain ⟨order, seen, ending, outside, course, effect, same⟩ :=
      IncludeGraph.emit_recording_follows deep includes { walk with seen := [], lines := [] } idle
    refine ⟨sourcesOf order, ?_, course.order_nodup⟩
    rw [header_outer, same, settle_outer, IncludeGraph.recorded_of_effect effect]
  · intro after stopped
    obtain ⟨order, seen, ending, outside, course, effect, same⟩ :=
      IncludeGraph.emit_recording_follows deep includes { walk with seen := [], lines := [] } idle
    rw [header_apply, same] at stopped
    cases outside with
    | ok _ _ => cases stopped
    | error stop _ =>
        cases stopped
        exact IncludeGraph.effect_not_too_deep effect rfl
  · obtain ⟨order, seen, ⟨course, emitted⟩ | ⟨cycle, course, emitted⟩⟩ :=
      IncludeGraph.emit_recording_cases deep { walk with seen := [], lines := [] } idle total
    · have made : ∀ stop after,
          header graph.recording depth name includes walk ≠ .error stop after := by
        intro stop after
        rw [header_of_ok name emitted]
        simp
      refine ⟨⟨?_, ?_⟩, fun stop after stopped => absurd stopped (made stop after)⟩
      · rintro ⟨cycle, after, stopped⟩
        exact absurd stopped (made _ after)
      · rintro ⟨source, met, around⟩
        exact absurd (Links.reaches_outside_nothing.mpr around) (course.no_cycle met)
    · obtain ⟨genuine, first, head, met, around⟩ := course.cycle_met
      have reaches := Links.reaches_outside_nothing.mp around
      have refused := header_of_error name emitted
      refine ⟨⟨fun _ => ⟨first, met, reaches⟩, fun _ => ⟨cycle, _, refused⟩⟩, ?_⟩
      intro stop after stopped
      rw [refused] at stopped
      cases stopped
      exact ⟨cycle, rfl, genuine, first, head, met⟩

/-- Two repositories that include each other, behind one that includes both. -/
def knottedIncludes : IncludeGraph :=
  [("A-1.gir", [⟨"B", "1"⟩, ⟨"C", "1"⟩]), ("B-1.gir", [⟨"C", "1"⟩]), ("C-1.gir", [⟨"B", "1"⟩])]

theorem import_cycles_reported_knotted :
    ∃ cycle after, header knottedIncludes.recording 4 "A" [⟨"A", "1"⟩] { outer := [] } =
      .error (.because (.cycle cycle)) after := by
  have knotted := import_cycles_reported knottedIncludes 4 (by decide) "A" [⟨"A", "1"⟩]
    { outer := [] } rfl
  have forth : knottedIncludes.links.Edge "B-1.gir" "C-1.gir" :=
    ⟨_, rfl, ⟨"C", "1"⟩, by decide, by decide⟩
  have back : knottedIncludes.links.Edge "C-1.gir" "B-1.gir" :=
    ⟨_, rfl, ⟨"B", "1"⟩, by decide, by decide⟩
  have down : knottedIncludes.links.Edge "A-1.gir" "B-1.gir" :=
    ⟨_, rfl, ⟨"B", "1"⟩, by decide, by decide⟩
  have start : knottedIncludes.links.Met [] [⟨"A", "1"⟩] "A-1.gir" :=
    @Links.Met.direct _ _ _ ⟨"A", "1"⟩ (by decide) (by simp)
  have total : ∀ source, knottedIncludes.links.Met [] [⟨"A", "1"⟩] source →
      (knottedIncludes.links source).isSome :=
    fun _ met => IncludeGraph.total_of_rows (by decide) (by decide) met
  exact (knotted.2.2 total).1.mpr
    ⟨"B-1.gir", .onward start ⟨down, by simp⟩, .tail (.single forth) back⟩

end ZigBindings
