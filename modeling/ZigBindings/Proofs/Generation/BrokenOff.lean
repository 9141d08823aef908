import Mathlib.Data.List.Basic
import ZigBindings.Proofs.Generation.Places

/-!
# Generations that are broken off

A generation that fails leaves some repositories finished and others underway, one waiting for the
next. Its files tell which is which: a module is listed and whole, or it is open and blank, or it
has not been touched. Only the repository worked on last may have no open module, when it is the
file of its next one that could not be created.
-/

namespace ZigBindings

namespace Generator

/-- Whether a generation is broken off while some repositories are worked on, outermost first, and
others are finished. -/
def BrokenOff (generator : Generator) (start : Generation) (roots : List String) (stop : Stop)
    (after : Generation) (active done : List Frame) : Prop :=
  ∃ run raised,
    generator.Steps (start.links generator.input) roots ⟨start, [], []⟩ ⟨run, active, done⟩ ∧
    generator.Raised (start.links generator.input) roots ⟨run, active, done⟩ raised after ∧
    stop = passUp active raised

variable {generator : Generator} {start run after : Generation} {links : Links}
  {roots : List String} {active outer done : List Frame} {frame : Frame} {space : Namespace}
  {moment : Moment} {stop : Stop}

theorem broken_off_of_error (stopped : generator.generate roots start = .error stop after) :
    ∃ active done, BrokenOff generator start roots stop after active done := by
  obtain ⟨run, active, done, raised, steps, raises, same⟩ :=
    (generate_steps generator start roots).of_error stopped
  exact ⟨active, done, run, raised, steps, raises, same⟩

section Raised

theorem Raised.noted (raises : generator.Raised links roots moment stop after) :
    ∃ records, after = moment.run.note records := by
  have silent : ∀ run : Generation, run = run.note [] := fun run => by simp [Run.note]
  cases raises with
  | cycle => exact ⟨[], silent _⟩
  | @unread _ _ _ _ _ _ depth _ _ missing _ stopped =>
      obtain ⟨records, _, same⟩ :=
        Loader.refused_of_load (generator.loader depth) missing stopped
      exact ⟨records, same⟩
  | blocked idle next refused =>
      obtain ⟨_, _, rfl⟩ := create_error refused
      exact ⟨[], silent _⟩

theorem Raised.blocked_of_idle
    (raises : generator.Raised links roots ⟨run, outer ++ [frame], done⟩ stop after)
    (idle : frame.opened = none) :
    ∃ space rest problem, frame.repository.namespaces = frame.written ++ space :: rest ∧
      run.files.create (generator.modulePath space.name) = .error problem := by
  generalize isActive : outer ++ [frame] = active at raises
  cases raises with
  | cycle opened =>
      cases List.append_inj_right' isActive rfl
      rw [idle] at opened
      cases opened
  | unread fresh missing asks refused =>
      subst isActive
      unfold Asks at asks
      rw [List.getLast?_concat] at asks
      simp [idle] at asks
  | @blocked _ _ _ _ _ space rest _ idle next refused =>
      cases List.append_inj_right' isActive rfl
      cases created : run.files.create (generator.modulePath space.name) with
      | ok files => simp [createModule, created] at refused
      | error problem => exact ⟨space, rest, problem, next, created⟩

end Raised

section Filed

variable (filed : Filed generator start roots ⟨run, active, done⟩)

include filed

theorem Filed.closed (member : frame ∈ done) : frame.opened = none := by
  have aligned := (filed.laid frame (List.mem_append_left _ member)).aligned.length_le
  rw [Frame.begun, ← filed.accounted.stacked.complete frame member, List.length_append] at aligned
  cases opened : frame.opened with
  | none => rfl
  | some space =>
      rw [opened, Option.toList_some, List.length_singleton] at aligned
      omega

theorem Filed.unlisted_iff (distinct : (generator.places run).Nodup)
    (member : frame ∈ done ++ active) (begun : space ∈ frame.begun) :
    generator.modulePath space.name ∉ run.extra ↔ frame ∈ active ∧ space ∈ frame.opened := by
  constructor
  · intro unlisted
    have opened : space ∈ frame.opened := by
      rcases List.mem_append.mp begun with written | opened
      · exact absurd (filed.accounted.listed_iff.mpr ⟨frame, member, space, written, rfl⟩) unlisted
      · simpa using opened
    refine ⟨(List.mem_append.mp member).resolve_left fun finished => ?_, opened⟩
    rw [filed.closed finished] at opened
    cases opened
  · rintro ⟨working, opened⟩ listed
    obtain ⟨other, member', more, written, path⟩ := filed.accounted.listed_iff.mp listed
    obtain ⟨location, belongs, _⟩ := (filed.laid frame member).placed space begun
    have belongs' : generator.Belongs start.files location more := by
      unfold Belongs at belongs ⊢
      rw [path]
      exact belongs
    exact filed.not_open distinct member' written belongs' frame.name
      ⟨frame, working, rfl, space, opened, belongs⟩

end Filed

/-- What a generation leaves that was broken off while some repositories were worked on and others
were finished. -/
structure Aftermath (generator : Generator) (start after : Generation)
    (active done : List Frame) : Prop where
  names : after.names.Perm ((done ++ active).map Frame.name)
  registered : ∀ frame ∈ done ++ active, ∃ loaded, after.registered? frame.name = some loaded ∧
    loaded.repository = frame.repository
  begun : ∀ frame ∈ done ++ active, frame.begun <+: frame.repository.namespaces
  tower : active.Pairwise fun outer inner => outer.Awaits (start.links generator.input) inner.name
  blocked : ∀ frame ∈ active, frame.opened = none → active.getLast? = some frame ∧
    ∃ space rest problem, frame.repository.namespaces = frame.written ++ space :: rest ∧
      after.files.create (generator.modulePath space.name) = .error problem
  whole : ∀ path ∈ after.extra, ∃ name loaded, after.registered? name = some loaded ∧
    ∃ space ∈ loaded.repository.namespaces, generator.modulePath space.name = path ∧
      ∃ content, after.moduleBytes? loaded.repository space = some content ∧
        after.files.read path = .ok content
  unlisted : ∀ frame ∈ done ++ active, ∀ space ∈ frame.begun,
    generator.modulePath space.name ∉ after.extra ↔ frame ∈ active ∧ space ∈ frame.opened
  blank : ∀ frame ∈ active, ∀ space ∈ frame.opened,
    after.files.read (generator.modulePath space.name) = .ok []
  same : ∀ location, (∀ frame ∈ done ++ active, ∀ space ∈ frame.begun,
    ¬generator.Belongs start.files location space) →
      after.files.at? location = start.files.at? location

theorem Filed.whole (filed : Filed generator start roots ⟨run, active, done⟩)
    (distinct : (generator.places run).Nodup) {path : Path} (listed : path ∈ run.extra) :
    ∃ name loaded, run.registered? name = some loaded ∧ ∃ space ∈ loaded.repository.namespaces,
      generator.modulePath space.name = path ∧ ∃ content,
        run.moduleBytes? loaded.repository space = some content ∧
        run.files.read path = .ok content := by
  obtain ⟨frame, member, space, written, rfl⟩ := filed.accounted.listed_iff.mp listed
  obtain ⟨loaded, known, same⟩ := filed.accounted.loaded member
  have whole := filed.read_written distinct member written
  rw [← same] at whole
  refine ⟨frame.name, loaded, known, space, ?_, rfl, whole⟩
  rw [same]
  exact (filed.laid frame member).aligned.subset (List.mem_append_left _ written)

theorem Filed.blocked (filed : Filed generator start roots ⟨run, active, done⟩)
    (raises : generator.Raised links roots ⟨run, active, done⟩ stop after)
    (working : frame ∈ active) (idle : frame.opened = none) :
    active.getLast? = some frame ∧ ∃ space rest problem,
      frame.repository.namespaces = frame.written ++ space :: rest ∧
        run.files.create (generator.modulePath space.name) = .error problem := by
  rcases active.eq_nil_or_concat' with rfl | ⟨outer, top, rfl⟩
  · cases working
  · rcases List.mem_append.mp working with below | last
    · have waits := (List.pairwise_append.mp filed.accounted.stacked.tower).2.2 frame below top
        (by simp)
      have opened := waits.opened
      rw [idle] at opened
      cases opened
    · cases List.mem_singleton.mp last
      exact ⟨List.getLast?_concat, raises.blocked_of_idle idle⟩

/-- What a failed generation leaves can be told from what was underway, if every module of the
registered repositories has a file of its own. What is listed is whole; what has been opened but is
not listed is the modules that were underway, one inside the other, and is blank; nothing else has
changed. -/
theorem failed_generation_leaves (generator : Generator) (start after : Generation)
    (roots : List String) (stop : Stop) (nothing : start.registry = [])
    (unlisted : start.extra = [])
    (stopped : generator.generate roots start = .error stop after)
    (distinct : (generator.places after).Nodup) :
    ∃ active done, BrokenOff generator start roots stop after active done ∧
      Aftermath generator start after active done := by
  obtain ⟨active, done, run, raised, steps, raises, same⟩ := broken_off_of_error stopped
  have filed := steps.filed (filed_start generator roots nothing unlisted)
  refine ⟨active, done, ⟨run, raised, steps, raises, same⟩, ?_⟩
  -- The run that is left and the one in which something was raised differ in their logs only.
  have ⟨records, noted⟩ := raises.noted
  have distinct' : (generator.places run).Nodup := by
    rw [noted] at distinct
    exact distinct
  rw [noted]
  constructor
  · exact filed.accounted.kept.names
  · exact fun frame member => filed.accounted.loaded member
  · exact fun frame member => (filed.laid frame member).aligned
  · exact filed.accounted.stacked.tower
  · exact fun frame working idle => filed.blocked raises working idle
  · exact fun path listed => filed.whole distinct' listed
  · exact fun frame member space begun => filed.unlisted_iff distinct' member begun
  · exact fun frame working space opened => filed.read_opened distinct' working opened
  · exact fun location elsewhere => filed.unchanged elsewhere

theorem failed_generation_leaves_missing :
    ∃ stop after active done,
      shelfGenerator.generate ["A-1.gir"] (shelf [("A", ["B", "C"]), ("B", [])]) =
        .error stop after ∧
      BrokenOff shelfGenerator (shelf [("A", ["B", "C"]), ("B", [])]) ["A-1.gir"] stop after
        active done ∧
      Aftermath shelfGenerator (shelf [("A", ["B", "C"]), ("B", [])]) after active done ∧
      after.extra = [shelfGenerator.modulePath "B"] ∧
      after.files.read (shelfGenerator.modulePath "A") = .ok [] := by
  have checked : ∃ result ∈ (shelfGenerator.generate ["A-1.gir"]).stopped?
        (shelf [("A", ["B", "C"]), ("B", [])]),
      (shelfGenerator.places result.2).Nodup ∧
        result.2.extra = [shelfGenerator.modulePath "B"] ∧
        result.2.files.read (shelfGenerator.modulePath "A") = .ok [] := by
    decide +kernel
  obtain ⟨⟨stop, after⟩, stopped, distinct, listed, blank⟩ := checked
  have made := Action.of_stopped stopped
  obtain ⟨active, done, brokenOff, aftermath⟩ := failed_generation_leaves shelfGenerator
    (shelf [("A", ["B", "C"]), ("B", [])]) after ["A-1.gir"] stop rfl rfl made distinct
  exact ⟨stop, after, active, done, made, brokenOff, aftermath, listed, blank⟩

end Generator

end ZigBindings
