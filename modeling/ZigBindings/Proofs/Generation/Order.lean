import Mathlib.Data.List.Basic
import ZigBindings.Proofs.Generation.Account
import ZigBindings.Proofs.Generation.Supply

/-!
# The order of generated modules

Where includes go around nowhere, everything that is supplied is generated. The modules of a
repository come after those of all that it leads to.
-/

namespace ZigBindings

theorem pair_sublist {α : Type} {items : List α} {one other : α} (first : one ∈ items)
    (second : other ∈ items) (different : one ≠ other) :
    [one, other].Sublist items ∨ [other, one].Sublist items := by
  induction items with
  | nil => cases first
  | cons item rest ih =>
      rcases List.mem_cons.mp first with rfl | one_later
      · have other_later := (List.mem_cons.mp second).resolve_left (Ne.symm different)
        exact .inl (.cons_cons one (List.singleton_sublist.mpr other_later))
      · rcases List.mem_cons.mp second with rfl | other_later
        · exact .inr (.cons_cons other (List.singleton_sublist.mpr one_later))
        · exact (ih one_later other_later).imp (.cons item) (.cons item)

namespace Generator

variable {generator : Generator} {start run after : Generation} {roots : List String}
  {moment : Moment} {done active : List Frame}

theorem Accounted.written (accounted : Accounted generator start roots ⟨run, active, done⟩)
    {frame : Frame} (finished : frame ∈ done) :
    generator.modulePaths frame.written = generator.modulesOf start frame.name := by
  rw [modules_of_held (accounted.drawn frame finished), accounted.stacked.complete frame finished]

theorem Accounted.written_ne (accounted : Accounted generator start roots ⟨run, active, done⟩)
    {frame : Frame} (finished : frame ∈ done)
    (some : generator.modulesOf start frame.name ≠ []) : frame.written ≠ [] := by
  intro blank
  rw [← accounted.written finished, blank] at some
  exact some rfl

theorem Accounted.modules (accounted : Accounted generator start roots ⟨run, active, done⟩) :
    done.flatMap (fun frame => generator.modulePaths frame.written) =
      (done.map Frame.name).flatMap (generator.modulesOf start) := by
  rw [List.flatMap_map]
  exact List.flatMap_congr fun frame finished => accounted.written finished

/-- What a finished repository with modules leads to has been finished before. -/
theorem Accounted.before (accounted : Accounted generator start roots ⟨run, active, done⟩)
    {frame : Frame} (finished : frame ∈ done)
    (some : generator.modulesOf start frame.name ≠ []) {target : String}
    (reaches : (start.links generator.input).Reaches frame.name target) :
    [target, frame.name].Sublist (done.map Frame.name) := by
  have written := accounted.written_ne finished some
  obtain ⟨member, straight⟩ :=
    accounted.stacked.settled frame (by simp [finished]) written target reaches
  obtain ⟨other, isFinished, rfl⟩ := List.mem_map.mp member
  have different : other.name ≠ frame.name := by
    intro same
    rw [same] at straight reaches
    exact straight reaches
  have apart : other ≠ frame := fun same => different (congrArg Frame.name same)
  rcases pair_sublist isFinished finished apart with earlier | later
  · exact earlier.map Frame.name
  · exact absurd reaches
      (List.pairwise_iff_forall_sublist.mp accounted.stacked.sorted later written)

theorem Accounted.all (accounted : Accounted generator start roots ⟨run, [], done⟩)
    (registered : ∀ root ∈ roots, (run.registered? root).isSome) {name : String}
    (wanted : Wanted generator start roots name) : name ∈ run.names := by
  rcases wanted with root | ⟨root, isRoot, some, reaches⟩
  · exact Run.registered_iff.mp (registered name root)
  · obtain ⟨frame, finished | working, rfl⟩ :=
      accounted.kept.registered_iff.mp (registered root isRoot)
    · have before := accounted.before finished some reaches
      rw [accounted.kept.names.mem_iff, List.append_nil]
      exact before.subset (by simp)
    · cases working

/-- Without a cycle, generating below roots that are supplied succeeds. Each repository that belongs
to the generation is read and registered once, and all its modules are generated in the order of its
namespaces, after those of every repository that it leads to. -/
theorem dependencies_generated_first (generator : Generator) (start : Generation)
    (roots : List String) (nothing : start.registry = []) (unlisted : start.extra = [])
    (supplied : Supplied generator start roots)
    (acyclic : ∀ name, generator.Within start roots name →
      ¬(start.links generator.input).Reaches name name) :
    ∃ after order, generator.generate roots start = .ok after.extra after ∧
      (∀ name, name ∈ after.names ↔ Wanted generator start roots name) ∧
      (∀ name loaded, after.registered? name = some loaded →
        start.repository? generator.input name = some loaded.repository) ∧
      after.announced = start.announced ++
        after.names.map (fun name => .parsing (generator.input.below name).text) ∧
      after.readings = start.readings + after.names.length ∧
      order.Perm after.names ∧ order.Nodup ∧
      after.extra = order.flatMap (generator.modulesOf start) ∧
      ∀ source ∈ order, generator.modulesOf start source ≠ [] → ∀ target,
        (start.links generator.input).Reaches source target → [target, source].Sublist order := by
  have begun := accounted_start generator roots nothing unlisted
  cases made : generator.generate roots start with
  | error stop after =>
      -- Below supplied roots nothing but a cycle stops a generation, and there is none.
      obtain ⟨outer, frame, done, _, _, steps, _, _, _, _, first, _, reaches, around⟩ :=
        stopped_by_cycle supplied made
      obtain ⟨within, _⟩ := (steps.accounted begun).sound.framed frame (by simp)
      exact absurd around (acyclic first (within.reached reaches))
  | ok paths after =>
      obtain ⟨rfl, done, steps, registered⟩ := (generate_steps generator start roots).of_ok made
      have accounted := steps.accounted begun
      have names : after.names.Perm (done.map Frame.name) := by
        simpa using accounted.kept.names
      refine ⟨after, done.map Frame.name, rfl, ?_, accounted.sound.under.drawn,
        accounted.kept.announced, accounted.kept.readings, names.symm,
        names.nodup_iff.mp accounted.kept.distinct, ?_, ?_⟩
      · exact fun name => ⟨accounted.wanted name, accounted.all registered⟩
      · have listed : after.extra =
            done.flatMap fun frame => generator.modulePaths frame.written := by
          simpa [Listed] using accounted.listed
        rw [listed, accounted.modules]
      · intro source member some target reaches
        obtain ⟨frame, finished, rfl⟩ := List.mem_map.mp member
        exact accounted.before finished some reaches

theorem dependencies_generated_first_chained :
    ∃ after order, shelfGenerator.generate ["A-1.gir", "B-1.gir", "A-1.gir"]
        (shelf [("A", ["B"]), ("B", [])]) = .ok after.extra after ∧
      after.extra = order.flatMap
        (shelfGenerator.modulesOf (shelf [("A", ["B"]), ("B", [])])) ∧
      ["B-1.gir", "A-1.gir"].Sublist order := by
  have checked : shelfGenerator.supplies (shelf [("A", ["B"]), ("B", [])])
        ["A-1.gir", "B-1.gir"] = true ∧
      shelfGenerator.descends (shelf [("A", ["B"]), ("B", [])])
        ["A-1.gir", "B-1.gir"] = true ∧
      shelfGenerator.modulesOf (shelf [("A", ["B"]), ("B", [])]) "A-1.gir" ≠ [] ∧
      ((shelf [("A", ["B"]), ("B", [])]).repository? shelfGenerator.input "A-1.gir").map
        Repository.sources = some ["B-1.gir"] := by
    decide +kernel
  obtain ⟨enough, down, some, sources⟩ := checked
  have asked : ["A-1.gir", "B-1.gir", "A-1.gir"] ⊆ ["A-1.gir", "B-1.gir"] := by simp
  have acyclic : ∀ name, shelfGenerator.Within (shelf [("A", ["B"]), ("B", [])])
      ["A-1.gir", "B-1.gir", "A-1.gir"] name →
      ¬((shelf [("A", ["B"]), ("B", [])]).links shelfGenerator.input).Reaches name name := by
    rintro name ⟨root, isRoot, below⟩
    exact not_reaches_of_descends down (descends_closed down (asked isRoot) below)
  obtain ⟨after, order, made, wanted, _, _, _, same, _, listed, first⟩ :=
    dependencies_generated_first shelfGenerator (shelf [("A", ["B"]), ("B", [])])
      ["A-1.gir", "B-1.gir", "A-1.gir"] rfl rfl (supplied_of_supplies asked enough) acyclic
  obtain ⟨repository, held, included⟩ := Option.map_eq_some_iff.mp sources
  have edge : ((shelf [("A", ["B"]), ("B", [])]).links shelfGenerator.input).Edge
      "A-1.gir" "B-1.gir" :=
    Run.edge_iff.mpr ⟨repository, held, by simp [included]⟩
  have member : "A-1.gir" ∈ order :=
    same.mem_iff.mpr ((wanted "A-1.gir").mpr (.inl (by simp)))
  exact ⟨after, order, made, listed, first "A-1.gir" member some "B-1.gir" (.single edge)⟩

end Generator

end ZigBindings
