import Mathlib.Data.List.Basic
import ZigBindings.Proofs.Generation.BrokenOff

/-!
# One generation after another

What one generation has registered and listed the next one finds. A repository stays registered
when the generation that loaded it is broken off, and the next one takes it for generated. All
others that are registered have all their modules listed.
-/

namespace ZigBindings

namespace Generator

/-- A run that any number of generations have come to, each in the files that it found, with the
names of the repositories that were being worked on when one of them was broken off. -/
inductive History (generator : Generator) : Generation → List String → Prop
  | begun {run : Generation} (nothing : run.registry = []) (unlisted : run.extra = []) :
      History generator run []
  | changed {run : Generation} {broken : List String} (files : Files)
      (earlier : History generator run broken) : History generator { run with files } broken
  | returned {run after : Generation} {broken roots : List String} {paths : List Path}
      (earlier : History generator run broken)
      (made : generator.generate roots run = .ok paths after) : History generator after broken
  | failed {run after : Generation} {broken roots : List String} {stop : Stop}
      {active done : List Frame} (earlier : History generator run broken)
      (stopped : generator.generate roots run = .error stop after)
      (brokenOff : BrokenOff generator run roots stop after active done) :
      History generator after (broken ++ active.map Frame.name)

/-- What is registered and listed at a moment of a generation, whatever it found. -/
structure Traced (generator : Generator) (start : Generation) (moment : Moment) : Prop where
  kept : ∀ path ∈ start.extra, path ∈ moment.run.extra
  origin : ∀ name loaded, moment.run.registered? name = some loaded →
    start.registered? name = some loaded ∨
      ∃ frame ∈ moment.done ++ moment.active,
        frame.name = name ∧ frame.repository = loaded.repository
  known : ∀ frame ∈ moment.active, (moment.run.registered? frame.name).isSome
  listed : ∀ frame ∈ moment.done ++ moment.active, ∀ space ∈ frame.written,
    generator.modulePath space.name ∈ moment.run.extra
  complete : ∀ frame ∈ moment.done, frame.written = frame.repository.namespaces

/-- What holds between two generations: all modules of a registered repository are listed, unless it
was broken off. -/
structure Settled (generator : Generator) (run : Generation) (broken : List String) : Prop where
  known : ∀ name ∈ broken, (run.registered? name).isSome
  listed : ∀ name loaded, run.registered? name = some loaded → name ∉ broken →
    ∀ space ∈ loaded.repository.namespaces, generator.modulePath space.name ∈ run.extra

variable {generator : Generator} {start run after : Generation} {links : Links}
  {roots broken : List String} {moment later : Moment} {active done outer : List Frame}
  {frame : Frame} {stop : Stop} {paths : List Path} {name : String}

section Traced

theorem traced_start (generator : Generator) (start : Generation) :
    Traced generator start ⟨start, [], []⟩ :=
  ⟨fun _ member => member, fun _ _ known => .inl known, by simp, by simp, by simp⟩

theorem Traced.replace {other : Frame}
    (traced : Traced generator start ⟨run, outer ++ [frame], done⟩)
    (registry : after.registry = run.registry) (sameName : other.name = frame.name)
    (sameRepository : other.repository = frame.repository)
    (more : ∀ path ∈ run.extra, path ∈ after.extra)
    (written : ∀ space ∈ other.written, space ∈ frame.written ∨
      generator.modulePath space.name ∈ after.extra) :
    Traced generator start ⟨after, outer ++ [other], done⟩ := by
  obtain ⟨kept, origin, known, listed, complete⟩ := traced
  have same : ∀ name, after.registered? name = run.registered? name := fun name => by
    unfold Run.registered?
    rw [registry]
  refine ⟨fun path member => more path (kept path member), fun name loaded found => ?_,
    fun member working => ?_, fun member isMember space isWritten => ?_, complete⟩
  · rw [same] at found
    refine (origin name loaded found).imp_right ?_
    rintro ⟨old, member, named, held⟩
    simp only [List.mem_append, List.mem_singleton] at member
    rcases member with finished | below | rfl
    · exact ⟨old, by simp [finished], named, held⟩
    · exact ⟨old, by simp [below], named, held⟩
    · exact ⟨other, by simp, sameName.trans named, sameRepository.trans held⟩
  · rw [same]
    rcases List.mem_append.mp working with below | last
    · exact known member (List.mem_append_left _ below)
    · rw [List.mem_singleton.mp last, sameName]
      exact known frame (by simp)
  · rcases mem_of_replaced isMember with old | rfl
    · exact more _ (listed member old space isWritten)
    · rcases written space isWritten with before | now
      · exact more _ (listed frame (by simp) space before)
      · exact now

theorem Traced.load {repository : Repository} (traced : Traced generator start ⟨run, active, done⟩)
    (fresh : run.registered? name = none) :
    Traced generator start ⟨run.enlist generator.input name repository,
      active ++ [⟨name, repository, [], none⟩], done⟩ := by
  obtain ⟨kept, origin, known, listed, complete⟩ := traced
  have grown := grown_enlist fresh generator.input repository
  have extra : (run.enlist generator.input name repository).extra = run.extra := by
    rw [Run.enlist_of_fresh _ _ fresh]
  refine ⟨fun path member => ?_, fun other loaded found => ?_, fun other working => ?_,
    fun other member space written => ?_, complete⟩
  · rw [extra]
    exact kept path member
  · unfold Run.enlist at found
    rw [Run.registered_register] at found
    split_ifs at found with same
    · cases found
      exact .inr ⟨⟨name, repository, [], none⟩, by simp, same.symm, rfl⟩
    · refine (origin other loaded found).imp_right ?_
      rintro ⟨frame, member, named, same⟩
      exact ⟨frame, by rw [← List.append_assoc]; exact List.mem_append_left _ member, named, same⟩
  · rcases List.mem_append.mp working with old | new
    · obtain ⟨loaded, found⟩ := Option.isSome_iff_exists.mp (known other old)
      exact Option.isSome_of_eq_some (grown _ _ found)
    · rw [List.mem_singleton.mp new]
      exact Option.isSome_of_eq_some (Run.enlist_registered run generator.input name repository)
  · rw [extra]
    rcases mem_of_loaded member with old | rfl
    · exact listed other old space written
    · cases written

theorem Traced.finish (traced : Traced generator start ⟨run, outer ++ [frame], done⟩)
    (whole : frame.written = frame.repository.namespaces) :
    Traced generator start ⟨run, outer, done ++ [frame]⟩ := by
  obtain ⟨kept, origin, known, listed, complete⟩ := traced
  refine ⟨kept, ?_, fun other working => known other (by simp [working]), ?_, ?_⟩
  · simpa only [mem_finished_iff] using origin
  · simpa only [mem_finished_iff] using listed
  · simpa [or_imp, forall_and] using ⟨complete, whole⟩

theorem Step.traced (step : generator.Step links roots moment later)
    (traced : Traced generator start moment) : Traced generator start later := by
  cases step with
  | note =>
      obtain ⟨kept, origin, known, listed, complete⟩ := traced
      exact ⟨kept, origin, known, listed, complete⟩
  | load fresh _ _ => exact traced.load fresh
  | open_ _ _ created =>
      obtain ⟨_, _, _, rfl⟩ := create_ok created
      exact traced.replace rfl rfl rfl (fun _ member => member) fun _ written => .inl written
  | write =>
      refine traced.replace (write_registry _ _ _) rfl rfl (fun path member => ?_)
        fun other written => ?_
      · rw [write_extra]
        exact List.mem_append_left _ member
      · refine (List.mem_append.mp written).imp_right fun last => ?_
        rw [write_extra, List.mem_singleton.mp last]
        simp
  | finish _ whole => exact traced.finish whole

theorem Steps.traced (steps : generator.Steps links roots moment later)
    (traced : Traced generator start moment) : Traced generator start later := by
  induction steps with
  | refl => exact traced
  | tail _ step ih => exact step.traced ih

end Traced

section Settled

/-- What has come to an end is settled, apart from what was broken off before and what is being
worked on. -/
theorem Traced.settled (traced : Traced generator start ⟨run, active, done⟩)
    (grown : start.Grown run) (settled : Settled generator start broken) :
    Settled generator run (broken ++ active.map Frame.name) := by
  constructor
  · intro name member
    rcases List.mem_append.mp member with before | now
    · obtain ⟨loaded, found⟩ := Option.isSome_iff_exists.mp (settled.known name before)
      exact Option.isSome_of_eq_some (grown name loaded found)
    · obtain ⟨frame, working, rfl⟩ := List.mem_map.mp now
      exact traced.known frame working
  · intro name loaded found whole space listed
    rcases traced.origin name loaded found with before | ⟨frame, member, rfl, same⟩
    · have old : name ∉ broken := fun member => whole (List.mem_append_left _ member)
      exact traced.kept _ (settled.listed name loaded before old space listed)
    · have finished : frame ∈ done := by
        refine (List.mem_append.mp member).resolve_right fun working => whole ?_
        exact List.mem_append_right _ (List.mem_map_of_mem working)
      refine traced.listed frame member space ?_
      rw [traced.complete frame finished, same]
      exact listed

theorem Settled.returned (settled : Settled generator run broken)
    (made : generator.generate roots run = .ok paths after) : Settled generator after broken := by
  obtain ⟨_, done, steps, _⟩ := (generate_steps generator run roots).of_ok made
  have traced := (steps.traced (traced_start generator run)).settled steps.grown settled
  simpa using traced

theorem Settled.failed (settled : Settled generator run broken)
    (brokenOff : BrokenOff generator run roots stop after active done) :
    Settled generator after (broken ++ active.map Frame.name) := by
  obtain ⟨last, _, steps, raises, _⟩ := brokenOff
  obtain ⟨records, rfl⟩ := raises.noted
  have ⟨known, listed⟩ := (steps.traced (traced_start generator run)).settled steps.grown settled
  exact ⟨known, listed⟩

theorem History.settled (history : History generator run broken) :
    Settled generator run broken := by
  induction history with
  | begun nothing unlisted =>
      refine ⟨by simp, fun name loaded found => ?_⟩
      simp [Run.registered?, nothing] at found
  | changed files earlier ih => exact ⟨ih.known, ih.listed⟩
  | returned earlier made ih => exact ih.returned made
  | failed earlier stopped brokenOff ih => exact ih.failed brokenOff

end Settled

/-- Whatever has been generated before in whatever files, a generation that returns lists all
modules of every root, unless an earlier generation was broken off while it was working on that
root. Such a root is given as it was registered then. -/
theorem returned_roots_listed (generator : Generator) (run after : Generation)
    (broken roots : List String) (paths : List Path) (history : History generator run broken)
    (made : generator.generate roots run = .ok paths after) :
    ∀ root ∈ roots, ∃ loaded, after.registered? root = some loaded ∧
      (root ∉ broken → ∀ space ∈ loaded.repository.namespaces,
        generator.modulePath space.name ∈ paths) ∧
      (root ∈ broken → run.registered? root = some loaded) := by
  intro root isRoot
  obtain ⟨rfl, done, steps, registered⟩ := (generate_steps generator run roots).of_ok made
  obtain ⟨loaded, found⟩ := Option.isSome_iff_exists.mp (registered root isRoot)
  have settled := history.settled.returned made
  refine ⟨loaded, found, settled.listed root loaded found, fun member => ?_⟩
  -- A root that was broken off stays registered as it was, since registrations are never replaced.
  obtain ⟨old, before⟩ := Option.isSome_iff_exists.mp (history.settled.known root member)
  have same := steps.grown root old before
  rw [found] at same
  rw [before, Option.some.inj same]

theorem returned_roots_listed_after_failure :
    ∃ run broken paths after loaded, History shelfGenerator run broken ∧
      shelfGenerator.generate ["A-1.gir", "B-1.gir"] run = .ok paths after ∧
      after.registered? "B-1.gir" = some loaded ∧ loaded.repository.namespaces ≠ [] ∧
      ∀ space ∈ loaded.repository.namespaces, shelfGenerator.modulePath space.name ∈ paths := by
  have checked : ∃ first ∈ (shelfGenerator.generate ["A-1.gir"]).stopped?
        (shelf [("A", ["C"]), ("B", [])]),
      first.2.registered? "B-1.gir" = none ∧
        ∃ second ∈ (shelfGenerator.generate ["A-1.gir", "B-1.gir"]).returned? first.2,
          ∀ loaded ∈ second.2.registered? "B-1.gir", loaded.repository.namespaces ≠ [] := by
    decide +kernel
  obtain ⟨⟨stop, run⟩, stopped, fresh, ⟨paths, after⟩, returned, some⟩ := checked
  have made := Action.of_returned returned
  obtain ⟨active, done, brokenOff⟩ := broken_off_of_error (Action.of_stopped stopped)
  have history : History shelfGenerator run ([] ++ active.map Frame.name) :=
    .failed (.begun rfl rfl) (Action.of_stopped stopped) brokenOff
  have whole : "B-1.gir" ∉ [] ++ active.map Frame.name := by
    intro member
    have known := history.settled.known _ member
    simp [fresh] at known
  obtain ⟨loaded, found, listed, _⟩ := returned_roots_listed shelfGenerator run after _
    ["A-1.gir", "B-1.gir"] paths history made "B-1.gir" (by simp)
  exact ⟨run, _, paths, after, loaded, history, made, found, some loaded found, listed whole⟩

/-- A root that an earlier generation failed to generate is taken for generated. -/
theorem failed_root_taken_for_generated :
    ∃ stop run after,
      shelfGenerator.generate ["A-1.gir"] (shelf [("A", ["B"])]) = .error stop run ∧
      shelfGenerator.generate ["A-1.gir"] run = .ok [] after ∧
      ∃ loaded, after.registered? "A-1.gir" = some loaded ∧ loaded.repository.namespaces ≠ [] := by
  have checked : ∃ first ∈ (shelfGenerator.generate ["A-1.gir"]).stopped? (shelf [("A", ["B"])]),
      ∃ second ∈ (shelfGenerator.generate ["A-1.gir"]).returned? first.2,
        second.1 = [] ∧ ∃ loaded ∈ second.2.registered? "A-1.gir",
          loaded.repository.namespaces ≠ [] := by
    decide +kernel
  obtain ⟨⟨stop, run⟩, stopped, ⟨paths, after⟩, returned, empty, registered⟩ := checked
  dsimp only at empty registered
  subst empty
  exact ⟨stop, run, after, Action.of_stopped stopped, Action.of_returned returned, registered⟩

end Generator

end ZigBindings
