import ZigBindings.Proofs.Generation.Underway
import ZigBindings.Proofs.Include.Walk

/-!
# Headers of modules

The header of a module is made by a walk that starts from nothing and resolves sources as the
generation does. Its lines are those of the includes that the walk has taken up.
-/

namespace ZigBindings

namespace Generator

variable {run after : Generation} {resolve : Resolve (List Path)}

def includesOf (resolve : Resolve (List Path)) : Walk.Resolver Generation := fun source => do
  return (← resolve source).repository.includes

def headed (name : String) (order : List Include) :
    EStateM.Result Stop Generation Unit → EStateM.Result Stop Generation (List String)
  | .ok _ after => .ok (headerLines name order) after
  | .error stop after => .error stop after

theorem header_follows {links : Links} {domain : String → Prop}
    {pool : List String} {holds : Generation → Prop}
    (answers : Walk.Answers (includesOf resolve) links domain holds)
    (closed : Walk.Domain links domain pool) {depth : Nat} (deep : pool.length < depth)
    {includes : List Include} (start : holds run)
    (within : ∀ entry ∈ includes, domain entry.source) (name : String) :
    ∃ order seen ending outside, Course links [] [] includes order seen ending ∧
      Walk.Effect (includesOf resolve) run (sourcesOf order) ending outside ∧
      header resolve depth name includes run = headed name order outside := by
  have followed : Walk.Follows (includesOf resolve) links { outer := run } includes
      (Walk.emitWithin (includesOf resolve) depth includes { outer := run }) :=
    Walk.emit_follows answers closed start within List.nodup_nil (List.nil_subset _)
      (by simpa using deep)
  obtain ⟨order, seen, ending, outside, course, effect, emitted⟩ := followed
  refine ⟨order, seen, ending, outside, course, effect, ?_⟩
  change Walk.afresh (Walk.header (includesOf resolve) depth name includes) run = _
  unfold Walk.afresh
  cases outside with
  | ok _ after =>
      have made : Walk.header (includesOf resolve) depth name includes { outer := run } =
          .ok ((Walk.moved { outer := run } order seen after).lines ++
              (Walk.impliedBy name).map importLine)
            (Walk.moved { outer := run } order seen after) := Walk.header_of_ok name emitted
      rw [made]
      rfl
  | error stop after =>
      have refused : Walk.header (includesOf resolve) depth name includes { outer := run } =
          .error stop (Walk.moved { outer := run } order seen after) :=
        Walk.header_of_error name emitted
      rw [refused]
      rfl

theorem includes_apply_ok {source : String} {includes : List Include}
    (answered : includesOf resolve source run = .ok includes after) :
    ∃ loaded, resolve source run = .ok loaded after ∧ loaded.repository.includes = includes := by
  unfold includesOf at answered
  rw [Action.bind_apply] at answered
  cases result : resolve source run with
  | ok loaded middle =>
      rw [result] at answered
      cases answered
      exact ⟨loaded, rfl, rfl⟩
  | error stop middle =>
      rw [result] at answered
      cases answered

theorem includes_apply_error {source : String} {stop : Stop}
    (refused : includesOf resolve source run = .error stop after) :
    resolve source run = .error stop after := by
  unfold includesOf at refused
  rw [Action.bind_apply] at refused
  cases result : resolve source run with
  | ok loaded middle =>
      rw [result] at refused
      cases refused
  | error stop' middle =>
      rw [result] at refused
      cases refused
      rfl

end Generator

end ZigBindings
