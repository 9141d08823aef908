import Mathlib.Data.List.Basic
import ZigBindings.Proofs.Generation.Order

/-!
# Generations that meet a cycle

A generation comes to an end whatever its repositories include. Below supplied roots it fails
exactly if a root with modules leads to a cycle, it names such a cycle, and it has written no module
of a repository that leads to one.
-/

namespace ZigBindings

def Links.Knotted (links : Links) (source : String) : Prop :=
  ∃ target, links.Reaches source target ∧ links.Reaches target target

theorem Links.knotted_of_reaches {links : Links} {source target : String}
    (reaches : links.Reaches source target) (knotted : links.Knotted target) :
    links.Knotted source := by
  obtain ⟨knot, leads, around⟩ := knotted
  exact ⟨knot, reaches.trans leads, around⟩

theorem flat_map_filter {α β : Type} (items : List α) (keep : α → Bool) (list : α → List β)
    (nothing : ∀ item ∈ items, keep item = false → list item = []) :
    (items.filter keep).flatMap list = items.flatMap list := by
  induction items with
  | nil => rfl
  | cons item rest ih =>
      have others := ih fun other member => nothing other (by simp [member])
      cases kept : keep item with
      | true => simp [kept, others]
      | false => simp [kept, others, nothing item (by simp) kept]

namespace Generator

variable {generator : Generator} {start run after : Generation} {roots : List String}
  {done outer : List Frame} {frame : Frame}

theorem Accounted.not_knotted {active : List Frame}
    (accounted : Accounted generator start roots ⟨run, active, done⟩) (finished : frame ∈ done)
    (some : generator.modulesOf start frame.name ≠ []) :
    ¬(start.links generator.input).Knotted frame.name := by
  rintro ⟨target, reaches, around⟩
  have written := accounted.written_ne finished some
  exact (accounted.stacked.settled frame (by simp [finished]) written target reaches).2 around

/-- When the repository worked on last leads to a cycle, so do all that are being worked on, and
none of them has written a module. -/
theorem Accounted.blank (accounted : Accounted generator start roots ⟨run, outer ++ [frame], done⟩)
    (knotted : (start.links generator.input).Knotted frame.name) :
    ∀ other ∈ outer ++ [frame],
      other.written = [] ∧ (start.links generator.input).Knotted other.name := by
  intro other member
  rcases List.mem_append.mp member with below | last
  · have waits := (List.pairwise_append.mp accounted.stacked.tower).2.2 other below frame (by simp)
    exact ⟨waits.blank, Links.knotted_of_reaches waits.reaches knotted⟩
  · rw [List.mem_singleton.mp last]
    refine ⟨?_, knotted⟩
    by_contra written
    obtain ⟨target, reaches, around⟩ := knotted
    exact (accounted.stacked.settled frame (by simp) written target reaches).2 around

/-- What has been listed when a cycle is met: the modules of the registered repositories that lead
to no cycle. -/
theorem Accounted.listed_before
    (accounted : Accounted generator start roots ⟨run, outer ++ [frame], done⟩)
    (knotted : (start.links generator.input).Knotted frame.name) :
    ∃ order : List String, order.Nodup ∧
      (∀ name, name ∈ order ↔
        name ∈ run.names ∧ ¬(start.links generator.input).Knotted name) ∧
      run.extra = order.flatMap (generator.modulesOf start) := by
  classical
  have blank := accounted.blank knotted
  have distinct := accounted.kept.names.nodup_iff.mp accounted.kept.distinct
  rw [List.map_append] at distinct
  refine ⟨(done.map Frame.name).filter fun name => ¬(start.links generator.input).Knotted name,
    (List.nodup_append.mp distinct).1.filter _, fun name => ?_, ?_⟩
  · rw [List.mem_filter, decide_eq_true_iff, accounted.kept.names.mem_iff, List.map_append,
      List.mem_append]
    refine and_congr_left fun straight => ⟨.inl, fun member => ?_⟩
    refine member.resolve_right fun working => ?_
    obtain ⟨other, isWorking, rfl⟩ := List.mem_map.mp working
    exact straight (blank other isWorking).2
  -- What is being worked on leads to the cycle and has written nothing.
  · have active : (outer ++ [frame]).flatMap
        (fun frame => generator.modulePaths frame.written) = [] := by
      rw [List.flatMap_eq_nil_iff]
      intro other member
      rw [(blank other member).1]
      rfl
    have listed : run.extra = done.flatMap fun frame => generator.modulePaths frame.written := by
      have all : run.extra = (done ++ (outer ++ [frame])).flatMap
        fun frame => generator.modulePaths frame.written := accounted.listed
      rw [all, List.flatMap_append, active, List.append_nil]
    rw [listed, accounted.modules, flat_map_filter]
    intro name member dropped
    obtain ⟨other, finished, rfl⟩ := List.mem_map.mp member
    by_contra some
    exact accounted.not_knotted finished some (by simpa using dropped)

theorem Accounted.root_of_open
    (accounted : Accounted generator start roots ⟨run, outer ++ [frame], done⟩)
    (opened : frame.opened.isSome) (knotted : (start.links generator.input).Knotted frame.name) :
    ∃ root ∈ roots, generator.modulesOf start root ≠ [] ∧
      (start.links generator.input).Knotted root := by
  have registered : frame.name ∈ run.names := by
    rw [accounted.kept.names.mem_iff]
    simp
  rcases accounted.wanted frame.name registered with root | ⟨root, isRoot, some, reaches⟩
  · exact ⟨frame.name, root, accounted.sound.modules (by simp) opened, knotted⟩
  · exact ⟨root, isRoot, some, Links.knotted_of_reaches reaches knotted⟩

/-- No generation runs out of depth. Below supplied roots it fails exactly if a root with modules
leads to a cycle. The failure names a cycle to which a root leads, and the modules that have been
written by then are those of the registered repositories that lead to none. -/
theorem include_cycles_stop_generation (generator : Generator) (start : Generation)
    (roots : List String) :
    (∀ after, generator.generate roots start ≠ .error .tooDeep after) ∧
      (start.registry = [] → start.extra = [] → Supplied generator start roots →
        ((∃ failure cycle after, generator.generate roots start = .error (.failed failure) after ∧
            failure.cause = .cycle cycle) ↔
          ∃ root ∈ roots, generator.modulesOf start root ≠ [] ∧
            (start.links generator.input).Knotted root) ∧
        ∀ stop after, generator.generate roots start = .error stop after →
          (∃ failure cycle, stop = .failed failure ∧ failure.cause = .cycle cycle ∧
            (start.links generator.input).IsCycle cycle ∧
            ∃ first ∈ cycle.head?, generator.Within start roots first) ∧
          ∃ order : List String, order.Nodup ∧
            (∀ name, name ∈ order ↔
              name ∈ after.names ∧ ¬(start.links generator.input).Knotted name) ∧
            after.extra = order.flatMap (generator.modulesOf start)) := by
  refine ⟨fun _ => generate_not_deep, fun nothing unlisted supplied => ⟨⟨?_, ?_⟩, ?_⟩⟩
  · rintro ⟨failure, cycle, after, stopped, _⟩
    obtain ⟨outer, frame, done, _, _, steps, opened, _, _, _, first, _, reaches, around⟩ :=
      stopped_by_cycle supplied stopped
    have accounted := steps.accounted (accounted_start generator roots nothing unlisted)
    exact accounted.root_of_open opened ⟨first, reaches, around⟩
  · rintro ⟨root, isRoot, some, knotted⟩
    cases made : generator.generate roots start with
    | ok paths after =>
        obtain ⟨_, done, steps, registered⟩ := (generate_steps generator start roots).of_ok made
        have accounted := steps.accounted (accounted_start generator roots nothing unlisted)
        -- The root would have been finished with modules, which none that leads to a cycle is.
        obtain ⟨frame, finished | working, rfl⟩ :=
          accounted.kept.registered_iff.mp (registered root isRoot)
        · exact absurd knotted (accounted.not_knotted finished some)
        · cases working
    | error stop after =>
        obtain ⟨_, _, _, failure, cycle, _, _, rfl, cause, _⟩ := stopped_by_cycle supplied made
        exact ⟨failure, cycle, after, rfl, cause⟩
  · intro stop after stopped
    obtain ⟨outer, frame, done, failure, cycle, steps, _, rfl, cause, genuine, first, head, reaches,
      around⟩ := stopped_by_cycle supplied stopped
    have accounted := steps.accounted (accounted_start generator roots nothing unlisted)
    obtain ⟨within, _⟩ := accounted.sound.framed frame (by simp)
    exact ⟨⟨failure, cycle, rfl, cause, genuine, first, head, within.reached reaches⟩,
      accounted.listed_before ⟨first, reaches, around⟩⟩

theorem include_cycles_stop_generation_looped :
    ∃ failure cycle after, shelfGenerator.generate ["A-1.gir"] (shelf [("A", ["A"])]) =
      .error (.failed failure) after ∧ failure.cause = .cycle cycle := by
  have checked : shelfGenerator.supplies (shelf [("A", ["A"])]) ["A-1.gir"] = true ∧
      shelfGenerator.modulesOf (shelf [("A", ["A"])]) "A-1.gir" ≠ [] ∧
      ((shelf [("A", ["A"])]).repository? shelfGenerator.input "A-1.gir").map
        Repository.sources = some ["A-1.gir"] := by
    decide +kernel
  obtain ⟨enough, some, sources⟩ := checked
  obtain ⟨repository, held, listed⟩ := Option.map_eq_some_iff.mp sources
  have edge : ((shelf [("A", ["A"])]).links shelfGenerator.input).Edge "A-1.gir" "A-1.gir" :=
    Run.edge_iff.mpr ⟨repository, held, by simp [listed]⟩
  obtain ⟨stops, _⟩ := (include_cycles_stop_generation shelfGenerator (shelf [("A", ["A"])])
    ["A-1.gir"]).2 rfl rfl (supplied_of_supplies (List.Subset.refl _) enough)
  exact stops.mpr ⟨"A-1.gir", by simp, some, "A-1.gir", .single edge, .single edge⟩

end Generator

end ZigBindings
