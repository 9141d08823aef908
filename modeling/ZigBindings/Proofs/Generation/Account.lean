import Mathlib.Data.List.Basic
import ZigBindings.Proofs.Generation.Steps

/-!
# Keeping account of a generation

A generation that starts with an empty registry, moment by moment: what is registered, read, written
and listed, and in which order. The repositories being worked on form a tower in which each leads to
all above it and none but the last has written a module. What a repository with written modules
leads to has been finished before, without a cycle.
-/

namespace ZigBindings

namespace Generator

def modulePaths (generator : Generator) (spaces : List Namespace) : List Path :=
  spaces.map fun space => generator.modulePath space.name

def modulesOf (generator : Generator) (run : Generation) (name : String) : List Path :=
  match run.repository? generator.input name with
  | some repository => generator.modulePaths repository.namespaces
  | none => []

theorem modules_of_held {generator : Generator} {run : Generation} {name : String}
    {repository : Repository} (held : run.repository? generator.input name = some repository) :
    generator.modulesOf run name = generator.modulePaths repository.namespaces := by
  simp [modulesOf, held]

theorem quiet_create {path : Path} {run after : Generation}
    (created : createModule path run = .ok () after) : run.Quiet after := by
  obtain ⟨_, _, _, rfl⟩ := create_ok created
  exact ⟨rfl, rfl, rfl⟩

theorem quiet_write (path : Path) (content : String) (run : Generation) :
    run.Quiet (writeModule path content run) := by
  have record : ∀ record ∈ [LogRecord.wrote path.text content.length], record.level = .debug := by
    simp [LogRecord.wrote]
  have noted := @Run.quiet_note _ run _ record
  exact ⟨write_registry path content run, rfl, noted.announced⟩

theorem variadics_quiet (space : Namespace) :
    ∀ record ∈ space.variadics.map LogRecord.variadic, record.level = .debug := by
  intro record member
  obtain ⟨_, _, rfl⟩ := List.mem_map.mp member
  rfl

/-- Registered is what is being worked on or finished, all of it once, and nothing else has been
read. -/
structure Kept (generator : Generator) (start : Generation) (moment : Moment) : Prop where
  names : moment.run.names.Perm ((moment.done ++ moment.active).map Frame.name)
  distinct : moment.run.names.Nodup
  announced : moment.run.announced = start.announced ++
    moment.run.names.map fun name => .parsing (generator.input.below name).text
  readings : moment.run.readings = start.readings + moment.run.names.length

/-- Whether a frame waits for a name: its first module is open and leads to the name. -/
structure Frame.Awaits (links : Links) (frame : Frame) (name : String) : Prop where
  opened : frame.opened.isSome
  blank : frame.written = []
  reaches : links.Reaches frame.name name

/-- The repositories being worked on and those that are finished, by what they lead to. -/
structure Stacked (links : Links) (moment : Moment) : Prop where
  tower : moment.active.Pairwise fun outer inner => outer.Awaits links inner.name
  settled : ∀ frame ∈ moment.done ++ moment.active, frame.written ≠ [] →
    ∀ target, links.Reaches frame.name target →
      target ∈ moment.done.map Frame.name ∧ ¬links.Reaches target target
  sorted : moment.done.Pairwise fun earlier later =>
    earlier.written ≠ [] → ¬links.Reaches earlier.name later.name
  complete : ∀ frame ∈ moment.done, frame.written = frame.repository.namespaces

/-- Every module that has been written is listed, repository after repository. -/
def Listed (generator : Generator) (moment : Moment) : Prop :=
  moment.run.extra =
    (moment.done ++ moment.active).flatMap fun frame => generator.modulePaths frame.written

/-- Whether a name belongs to a generation: it is a root, or a root with modules leads to it. -/
def Wanted (generator : Generator) (start : Generation) (roots : List String)
    (name : String) : Prop :=
  name ∈ roots ∨ ∃ root ∈ roots, generator.modulesOf start root ≠ [] ∧
    (start.links generator.input).Reaches root name

variable {generator : Generator} {start run after : Generation} {links : Links}
  {roots : List String} {moment later : Moment} {active outer done : List Frame} {frame : Frame}
  {space : Namespace}

section Kept

theorem Kept.registered_iff (kept : Kept generator start moment) {name : String} :
    (moment.run.registered? name).isSome ↔
      ∃ frame, (frame ∈ moment.done ∨ frame ∈ moment.active) ∧ frame.name = name := by
  rw [Run.registered_iff, kept.names.mem_iff]
  simp [or_and_right, exists_or]

theorem Kept.quiet (kept : Kept generator start ⟨run, active, done⟩) (quiet : run.Quiet after)
    {frames : List Frame} (same : frames.map Frame.name = active.map Frame.name) :
    Kept generator start ⟨after, frames, done⟩ := by
  obtain ⟨names, distinct, announced, readings⟩ := kept
  constructor
  · rw [quiet.names, List.map_append, same, ← List.map_append]
    exact names
  · rw [quiet.names]
    exact distinct
  · rw [quiet.names, quiet.announced]
    exact announced
  · rw [quiet.names, quiet.readings]
    exact readings

theorem Step.kept (step : generator.Step links roots moment later)
    (kept : Kept generator start moment) : Kept generator start later := by
  cases step with
  | note records quiet => exact kept.quiet (Run.quiet_note quiet) rfl
  | @load run active done name repository fresh held asks =>
      obtain ⟨names, distinct, announced, readings⟩ := kept
      rw [Run.enlist_of_fresh _ _ fresh]
      have absent := Run.not_registered_iff.mp fresh
      constructor
      · simpa [Run.names] using List.Perm.append_right [name] names
      · simpa [Run.names] using List.nodup_append.mpr
          ⟨distinct, List.nodup_singleton name, fun other member last isLast same =>
            absent (List.mem_singleton.mp isLast ▸ same ▸ member)⟩
      · rw [Run.announced_concat rfl, announced]
        simp [Run.names]
      · simp [Run.names] at readings ⊢
        omega
  | open_ _ _ created => exact kept.quiet (quiet_create created) (by simp [Frame.open_])
  | @write run outer done frame space order seen opened course known blank =>
      have noted := @Run.quiet_note _ run _ (variadics_quiet space)
      exact kept.quiet (noted.trans (quiet_write _ _ _)) (by simp [Frame.write])
  | @finish run outer done frame idle complete =>
      obtain ⟨names, distinct, announced, readings⟩ := kept
      refine ⟨names.trans ?_, distinct, announced, readings⟩
      rw [List.append_assoc]
      exact ((List.perm_append_comm).append_left done).map Frame.name

end Kept

section Stacked

theorem Stacked.below (stacked : Stacked links ⟨run, active, done⟩)
    (kept : Kept generator start ⟨run, active, done⟩) {name : String}
    (fresh : run.registered? name = none) (asks : Asks links roots active name) :
    ∀ frame ∈ active, frame.Awaits links name := by
  rcases active.eq_nil_or_concat' with rfl | ⟨outer, top, rfl⟩
  · simp
  · unfold Asks at asks
    rw [List.getLast?_concat] at asks
    obtain ⟨opened, reaches⟩ := asks
    -- Once its first module is written, all that the last one leads to has been registered.
    have blank : top.written = [] := by
      by_contra written
      obtain ⟨member, _⟩ := stacked.settled top (by simp) written name reaches
      obtain ⟨frame, finished, same⟩ := List.mem_map.mp member
      have known := kept.registered_iff.mpr ⟨frame, .inl finished, same⟩
      rw [fresh] at known
      cases known
    intro frame member
    rcases List.mem_append.mp member with below | last
    · have waits := (List.pairwise_append.mp stacked.tower).2.2 frame below top (by simp)
      exact ⟨waits.opened, waits.blank, waits.reaches.trans reaches⟩
    · rw [List.mem_singleton.mp last]
      exact ⟨opened, blank, reaches⟩

theorem tower_replace (other : Frame) (same : other.name = frame.name)
    (tower : (outer ++ [frame]).Pairwise fun outer inner => outer.Awaits links inner.name) :
    (outer ++ [other]).Pairwise fun outer inner => outer.Awaits links inner.name := by
  obtain ⟨below, _, between⟩ := List.pairwise_append.mp tower
  refine List.pairwise_append.mpr ⟨below, List.pairwise_singleton _ _, ?_⟩
  intro other member last isLast
  rw [List.mem_singleton.mp isLast, same]
  exact between other member frame (by simp)

theorem mem_of_loaded {other new : Frame} (member : other ∈ done ++ (active ++ [new])) :
    other ∈ done ++ active ∨ other = new := by
  rw [← List.append_assoc] at member
  exact (List.mem_append.mp member).imp_right List.mem_singleton.mp

theorem mem_of_replaced {other new : Frame} (member : other ∈ done ++ (outer ++ [new])) :
    other ∈ done ++ (outer ++ [frame]) ∨ other = new := by
  refine (mem_of_loaded member).imp_left fun old => ?_
  rw [← List.append_assoc]
  exact List.mem_append_left _ old

theorem mem_finished_iff {other : Frame} :
    other ∈ (done ++ [frame]) ++ outer ↔ other ∈ done ++ (outer ++ [frame]) := by
  rw [List.append_assoc]
  exact ((List.perm_append_comm).append_left done).mem_iff

/-- What the repository of a written module leads to is finished: its walk has taken it up and has
met no cycle, so that none of it is being worked on. -/
theorem Stacked.finished (stacked : Stacked links ⟨run, outer ++ [frame], done⟩)
    (kept : Kept generator start ⟨run, outer ++ [frame], done⟩)
    (found : links frame.name = some frame.repository.includes) {order : List Include}
    {seen : List String}
    (course : Course links [] [] frame.repository.includes order seen .finished)
    (known : ∀ source ∈ sourcesOf order, (run.registered? source).isSome) {target : String}
    (reaches : links.Reaches frame.name target) :
    target ∈ done.map Frame.name ∧ ¬links.Reaches target target := by
  have met := (Links.met_iff_reaches found).mpr reaches
  have straight : ∀ name, links.Reaches frame.name name → ¬links.Reaches name name := by
    intro name leads around
    exact course.no_cycle ((Links.met_iff_reaches found).mpr leads)
      (Links.reaches_outside_nothing.mpr around)
  refine ⟨?_, straight target reaches⟩
  obtain ⟨other, finished | working, rfl⟩ :=
    kept.registered_iff.mp (known target (course.mem_order_iff.mpr met))
  · exact List.mem_map_of_mem finished
  -- A repository that is being worked on would lead back to the target by way of the last one.
  · rcases List.mem_append.mp working with below | last
    · have waits := (List.pairwise_append.mp stacked.tower).2.2 other below frame (by simp)
      exact absurd (waits.reaches.trans reaches) (straight _ reaches)
    · rw [List.mem_singleton.mp last] at reaches
      exact absurd reaches (straight _ reaches)

theorem Stacked.load (stacked : Stacked links ⟨run, active, done⟩)
    (kept : Kept generator start ⟨run, active, done⟩) {name : String}
    (fresh : run.registered? name = none) (asks : Asks links roots active name)
    (repository : Repository) :
    Stacked links ⟨after, active ++ [⟨name, repository, [], none⟩], done⟩ := by
  have ⟨tower, settled, sorted, complete⟩ := stacked
  refine ⟨?_, fun frame member written => ?_, sorted, complete⟩
  · refine List.pairwise_append.mpr ⟨tower, List.pairwise_singleton _ _, ?_⟩
    intro frame member last isLast
    rw [List.mem_singleton.mp isLast]
    exact stacked.below kept fresh asks frame member
  · rcases mem_of_loaded member with old | rfl
    · exact settled frame old written
    · exact absurd rfl written

theorem Stacked.replace {other : Frame} (stacked : Stacked links ⟨run, outer ++ [frame], done⟩)
    (same : other.name = frame.name)
    (straight : other.written ≠ [] → ∀ target, links.Reaches frame.name target →
      target ∈ done.map Frame.name ∧ ¬links.Reaches target target) :
    Stacked links ⟨after, outer ++ [other], done⟩ := by
  obtain ⟨tower, settled, sorted, complete⟩ := stacked
  refine ⟨tower_replace other same tower, fun any member written => ?_, sorted, complete⟩
  rcases mem_of_replaced member with old | rfl
  · exact settled any old written
  · rw [same]
    exact straight written

/-- What was finished before does not lead to what is finished now: all that it leads to is under
names that were finished by then. -/
theorem Stacked.finish (stacked : Stacked links ⟨run, outer ++ [frame], done⟩)
    (kept : Kept generator start ⟨run, outer ++ [frame], done⟩)
    (whole : frame.written = frame.repository.namespaces) :
    Stacked links ⟨run, outer, done ++ [frame]⟩ := by
  obtain ⟨tower, settled, sorted, complete⟩ := stacked
  refine ⟨(List.pairwise_append.mp tower).1, fun other member written => ?_, ?_, ?_⟩
  · intro target reaches
    obtain ⟨finished, straight⟩ :=
      settled other (mem_finished_iff.mp member) written target reaches
    rw [List.map_append]
    exact ⟨List.mem_append_left _ finished, straight⟩
  · refine List.pairwise_append.mpr ⟨sorted, List.pairwise_singleton _ _, ?_⟩
    intro earlier member last isLast written reaches
    rw [List.mem_singleton.mp isLast] at reaches
    obtain ⟨finished, _⟩ := settled earlier (by simp [member]) written _ reaches
    have distinct := kept.names.nodup_iff.mp kept.distinct
    rw [List.map_append, List.map_append] at distinct
    exact (List.nodup_append.mp distinct).2.2 _ finished _ (by simp) rfl
  · intro other member
    rcases List.mem_append.mp member with old | new
    · exact complete other old
    · rw [List.mem_singleton.mp new]
      exact whole

theorem Step.stacked (step : generator.Step links roots moment later)
    (held : ∀ frame ∈ moment.active, links frame.name = some frame.repository.includes)
    (kept : Kept generator start moment) (stacked : Stacked links moment) :
    Stacked links later := by
  cases step with
  | note =>
      obtain ⟨tower, settled, sorted, complete⟩ := stacked
      exact ⟨tower, settled, sorted, complete⟩
  | load fresh _ asks => exact stacked.load kept fresh asks _
  | @open_ _ _ _ _ frame =>
      have settled := stacked.settled frame (by simp)
      exact stacked.replace rfl settled
  | write _ course known _ =>
      exact stacked.replace rfl fun _ _ => stacked.finished kept (held _ (by simp)) course known
  | finish _ whole => exact stacked.finish kept whole

end Stacked

section Listed

theorem Step.listed (step : generator.Step links roots moment later)
    (stacked : Stacked links moment) (listed : Listed generator moment) :
    Listed generator later := by
  unfold Listed at listed ⊢
  cases step with
  | note records quiet => exact listed
  | @load run active done name repository fresh held asks =>
      rw [Run.enlist_of_fresh _ _ fresh]
      simpa [modulePaths] using listed
  | open_ idle next created =>
      obtain ⟨_, _, _, rfl⟩ := create_ok created
      simpa [Frame.open_] using listed
  | @write run outer done frame space order seen opened course known blank =>
      rw [write_extra]
      simp only [Run.note, Frame.write, modulePaths] at listed ⊢
      rw [listed]
      simp
  | @finish run outer done frame idle whole =>
      have blank : outer.flatMap (fun frame => generator.modulePaths frame.written) = [] := by
        rw [List.flatMap_eq_nil_iff]
        intro other member
        have waits := (List.pairwise_append.mp stacked.tower).2.2 other member frame (by simp)
        rw [waits.blank]
        rfl
      simp only [List.flatMap_append, blank] at listed ⊢
      simpa using listed

end Listed

section Wanted

theorem Wanted.onward {name target : String} (wanted : Wanted generator start roots name)
    (some : generator.modulesOf start name ≠ [])
    (reaches : (start.links generator.input).Reaches name target) :
    Wanted generator start roots target := by
  rcases wanted with root | ⟨root, isRoot, some', leads⟩
  · exact .inr ⟨name, root, some, reaches⟩
  · exact .inr ⟨root, isRoot, some', leads.trans reaches⟩

theorem Moment.Sound.modules {scope : String → Prop} (sound : moment.Sound generator start scope)
    (member : frame ∈ moment.active) (opened : frame.opened.isSome) :
    generator.modulesOf start frame.name ≠ [] := by
  obtain ⟨_, held, listed⟩ := sound.framed frame member
  obtain ⟨space, isOpen⟩ := Option.isSome_iff_exists.mp opened
  rw [modules_of_held held]
  exact List.ne_nil_of_mem (List.mem_map_of_mem (listed space isOpen))

theorem wanted_of_asks {scope : String → Prop} (sound : moment.Sound generator start scope)
    {name : String} (asks : Asks (start.links generator.input) roots moment.active name)
    (wanted : ∀ frame ∈ moment.active, Wanted generator start roots frame.name) :
    Wanted generator start roots name := by
  unfold Asks at asks
  cases last : moment.active.getLast? with
  | none =>
      rw [last] at asks
      exact .inl asks
  | some top =>
      rw [last] at asks
      have member := List.mem_of_getLast? last
      exact (wanted top member).onward (sound.modules member asks.1) asks.2

end Wanted

/-- All of this together, with what the names of frames stood for at the start. -/
structure Accounted (generator : Generator) (start : Generation) (roots : List String)
    (moment : Moment) : Prop where
  sound : moment.Sound generator start (generator.Within start roots)
  drawn : ∀ frame ∈ moment.done,
    start.repository? generator.input frame.name = some frame.repository
  kept : Kept generator start moment
  stacked : Stacked (start.links generator.input) moment
  listed : Listed generator moment
  wanted : ∀ name ∈ moment.run.names, Wanted generator start roots name

theorem accounted_start (generator : Generator) (roots : List String)
    (nothing : start.registry = []) (unlisted : start.extra = []) :
    Accounted generator start roots ⟨start, [], []⟩ := by
  constructor
  · exact ⟨underway_refl generator start _, by simp⟩
  · simp
  · constructor <;> simp [Run.names, nothing]
  · constructor <;> simp
  · exact unlisted
  · simp [Run.names, nothing]

theorem Step.accounted (step : generator.Step (start.links generator.input) roots moment later)
    (accounted : Accounted generator start roots moment) :
    Accounted generator start roots later := by
  obtain ⟨sound, drawn, kept, stacked, listed, wanted⟩ := accounted
  have held : ∀ frame ∈ moment.active,
      start.links generator.input frame.name = some frame.repository.includes := by
    intro frame member
    simp [Run.links, (sound.framed frame member).2.1]
  refine ⟨Steps.sound_within (.single step) sound, ?_, step.kept kept,
    step.stacked held kept stacked, step.listed stacked listed, ?_⟩
  · cases step with
    | note => exact drawn
    | load => exact drawn
    | open_ => exact drawn
    | write => exact drawn
    | finish =>
        intro other member
        rcases List.mem_append.mp member with old | new
        · exact drawn other old
        · rw [List.mem_singleton.mp new]
          exact (sound.framed _ (by simp)).2.1
  · cases step with
    | note => exact wanted
    | @load run active done name repository fresh held asks =>
        rw [Run.enlist_of_fresh _ _ fresh]
        have framed : ∀ frame ∈ active, Wanted generator start roots frame.name := by
          intro frame member
          exact wanted _ (Run.registered_iff.mp
            (kept.registered_iff.mpr ⟨frame, .inr member, rfl⟩))
        intro other member
        simp only [Run.names, List.map_append, List.mem_append, List.map_cons, List.map_nil,
          List.mem_singleton] at member
        rcases member with old | rfl
        · exact wanted other old
        · exact wanted_of_asks sound asks framed
    | open_ _ _ created =>
        intro other member
        rw [(quiet_create created).names] at member
        exact wanted other member
    | write =>
        intro other member
        rw [(quiet_write _ _ _).names] at member
        exact wanted other member
    | finish => exact wanted

theorem Steps.accounted (steps : generator.Steps (start.links generator.input) roots moment later)
    (accounted : Accounted generator start roots moment) :
    Accounted generator start roots later := by
  induction steps with
  | refl => exact accounted
  | tail _ step ih => exact step.accounted ih

end Generator

end ZigBindings
