import Mathlib.Data.List.Basic
import ZigBindings.Proofs.Generation.Trace

/-!
# What a generation needs

Roots are supplied if all they lead to can be read, all modules can be created, and no module goes
where a document is. Generating below such roots can be stopped by nothing but a cycle of includes.
-/

namespace ZigBindings

namespace Generator

/-- Whether all is there that generating below some roots needs. -/
structure Supplied (generator : Generator) (start : Generation) (roots : List String) : Prop where
  held : ∀ name, generator.Within start roots name →
    (start.repository? generator.input name).isSome
  creatable : ∀ name repository, generator.Within start roots name →
    start.repository? generator.input name = some repository →
    ∀ space ∈ repository.namespaces, ∃ files,
      start.files.create (generator.modulePath space.name) = .ok files
  apart : ∀ name location, generator.Within start roots name →
    start.files.locate (generator.input.below name) = .ok location →
    ¬generator.Writes start (generator.Within start roots) location

/-- Whether the module of a namespace can be created and goes where none of some documents is. -/
def fits (generator : Generator) (run : Generation) (names : List String)
    (space : Namespace) : Bool :=
  match run.files.locate (generator.modulePath space.name) with
  | .error _ => false
  | .ok location =>
    run.files.at? location ≠ some .directory &&
      names.all fun name =>
        match run.files.locate (generator.input.below name) with
        | .error _ => true
        | .ok document => document ≠ location

/-- Whether the documents of some names hold repositories that include no others and whose modules
fit. -/
def supplies (generator : Generator) (run : Generation) (names : List String) : Bool :=
  names.all fun name =>
    match run.repository? generator.input name with
    | none => false
    | some repository =>
      repository.sources.all (· ∈ names) && repository.namespaces.all (generator.fits run names)

variable {generator : Generator} {start run after : Generation} {links : Links}
  {roots : List String} {moment : Moment} {stop : Stop}

theorem fits_iff {names : List String} {space : Namespace} :
    generator.fits start names space = true ↔
      ∃ location, start.files.locate (generator.modulePath space.name) = .ok location ∧
        start.files.at? location ≠ some .directory ∧
        ∀ name ∈ names, start.files.locate (generator.input.below name) ≠ .ok location := by
  unfold fits
  cases located : start.files.locate (generator.modulePath space.name) with
  | error problem => simp
  | ok location =>
      simp only [Bool.and_eq_true, decide_eq_true_eq, List.all_eq_true, Except.ok.injEq,
        exists_eq_left']
      refine and_congr_right fun _ => forall₂_congr fun name _ => ?_
      cases start.files.locate (generator.input.below name) <;> simp

section Supplies

variable {names : List String}

theorem held_of_supplies (enough : generator.supplies start names = true) {name : String}
    (member : name ∈ names) :
    ∃ repository, start.repository? generator.input name = some repository ∧
      repository.sources ⊆ names ∧
      ∀ space ∈ repository.namespaces, generator.fits start names space = true := by
  have row := List.all_eq_true.mp enough name member
  cases held : start.repository? generator.input name with
  | none => simp [held] at row
  | some repository =>
      simp only [held, Bool.and_eq_true, List.all_eq_true, decide_eq_true_eq] at row
      exact ⟨repository, rfl, fun source listed => row.1 source listed, row.2⟩

theorem within_of_supplies (asked : roots ⊆ names)
    (enough : generator.supplies start names = true) {name : String}
    (within : generator.Within start roots name) : name ∈ names := by
  obtain ⟨root, isRoot, below⟩ := within
  induction below with
  | refl => exact asked isRoot
  | tail _ edge ih =>
      obtain ⟨repository, held, member⟩ := Run.edge_iff.mp edge
      obtain ⟨repository', held', closed, _⟩ := held_of_supplies enough ih
      rw [held] at held'
      cases held'
      exact closed member

theorem fits_of_supplies (asked : roots ⊆ names)
    (enough : generator.supplies start names = true) {name : String} {repository : Repository}
    {space : Namespace} (within : generator.Within start roots name)
    (held : start.repository? generator.input name = some repository)
    (listed : space ∈ repository.namespaces) : generator.fits start names space = true := by
  obtain ⟨repository', held', _, fitting⟩ :=
    held_of_supplies enough (within_of_supplies asked enough within)
  rw [held] at held'
  cases held'
  exact fitting space listed

theorem supplied_of_supplies (asked : roots ⊆ names)
    (enough : generator.supplies start names = true) : Supplied generator start roots := by
  constructor
  · intro name within
    obtain ⟨repository, held, _⟩ :=
      held_of_supplies enough (within_of_supplies asked enough within)
    rw [held]
    rfl
  · intro name repository within held space listed
    obtain ⟨location, located, plain, _⟩ :=
      fits_iff.mp (fits_of_supplies asked enough within held listed)
    exact ⟨_, Files.create_eq_ok_iff.mpr ⟨location, located, plain, rfl⟩⟩
  · rintro name document within atDocument
      ⟨other, repository, space, within', held, listed, atModule⟩
    obtain ⟨location, located, _, apart⟩ :=
      fits_iff.mp (fits_of_supplies asked enough within' held listed)
    rw [atModule] at located
    cases located
    exact apart name (within_of_supplies asked enough within) atDocument

end Supplies

section Descends

/-- Whether the repositories of some names include only what comes later. -/
def descends (generator : Generator) (run : Generation) : List String → Bool
  | [] => true
  | name :: rest =>
    (match run.repository? generator.input name with
      | none => true
      | some repository => repository.sources.all (· ∈ rest)) &&
      generator.descends run rest

theorem descends_cons {name : String} {rest : List String}
    (down : generator.descends start (name :: rest) = true) :
    (∀ target, (start.links generator.input).Edge name target → target ∈ rest) ∧
      generator.descends start rest = true := by
  simp only [descends, Bool.and_eq_true] at down
  refine ⟨fun target edge => ?_, down.2⟩
  obtain ⟨repository, held, member⟩ := Run.edge_iff.mp edge
  have later := down.1
  simp only [held, List.all_eq_true, decide_eq_true_eq] at later
  exact later target member

theorem descends_closed {names : List String} (down : generator.descends start names = true)
    {source target : String} (member : source ∈ names)
    (below : generator.Below start source target) : target ∈ names := by
  induction names generalizing source with
  | nil => cases member
  | cons name rest ih =>
      obtain ⟨onward, later⟩ := descends_cons down
      rcases List.mem_cons.mp member with rfl | member
      · rcases Relation.ReflTransGen.cases_head below with rfl | ⟨next, edge, below⟩
        · exact List.mem_cons_self
        · exact List.mem_cons_of_mem _ (ih later (onward next edge) below)
      · exact List.mem_cons_of_mem _ (ih later member below)

theorem not_reaches_of_descends {names : List String}
    (down : generator.descends start names = true) {name : String} (member : name ∈ names) :
    ¬(start.links generator.input).Reaches name name := by
  induction names with
  | nil => cases member
  | cons first rest ih =>
      obtain ⟨onward, later⟩ := descends_cons down
      intro around
      obtain ⟨next, edge, below⟩ := Relation.TransGen.head'_iff.mp around
      rcases List.mem_cons.mp member with rfl | listed
      · exact ih later (descends_closed later (onward next edge) below) around
      · exact ih later listed around

end Descends

theorem Supplied.document (supplied : Supplied generator start roots)
    (under : generator.Underway start (generator.Within start roots) run) {name : String}
    (within : generator.Within start roots name) (fresh : run.registered? name = none) :
    ∃ repository, run.files.document? generator.input name = some repository := by
  obtain ⟨repository, held⟩ := Option.isSome_iff_exists.mp (supplied.held name within)
  rw [Run.repository_of_document (under.grown.fresh fresh)] at held
  exact ⟨repository, under.document_after held fun location => supplied.apart name location within⟩

theorem Supplied.create (supplied : Supplied generator start roots)
    (under : generator.Underway start (generator.Within start roots) run) {name : String}
    {repository : Repository} {space : Namespace}
    (isModule : generator.IsModule start (generator.Within start roots) name repository space) :
    ∃ after, createModule (generator.modulePath space.name) run = .ok () after := by
  obtain ⟨files, creates⟩ :=
    supplied.creatable name repository isModule.inScope isModule.held space isModule.listed
  obtain ⟨location, _, created⟩ := under.files.create_after creates
  refine ⟨{ run with files := run.files.put location (.file []) }, ?_⟩
  simp [createModule, created]

/-- Something that is raised although all is there is a cycle, met by the walk for the first module
of the repository worked on last. -/
theorem Raised.of_supplied (supplied : Supplied generator start roots)
    (sound : moment.Sound generator start (generator.Within start roots))
    (raises : generator.Raised (start.links generator.input) roots moment stop after) :
    ∃ outer frame order seen cycle, moment.active = outer ++ [frame] ∧ frame.opened.isSome ∧
      Course (start.links generator.input) [] [] frame.repository.includes order seen
        (.cycle cycle) ∧
      stop = .because (.cycle cycle) ∧ after = moment.run := by
  cases raises with
  | @cycle run outer done frame space order seen cycle opened course known =>
      exact ⟨outer, frame, order, seen, cycle, rfl, by simp [opened], course, rfl, rfl⟩
  | @unread run after active done name stop depth resolve fresh missing asks refused =>
      have within := scope_of_asks asks (fun _ member => within_root generator start member)
        (fun _ _ within edge => within.onward edge)
        fun frame member => (sound.framed frame member).1
      obtain ⟨repository, held⟩ := supplied.document sound.under within fresh
      rw [missing] at held
      cases held
  | @blocked run after outer done frame space rest stop idle next refused =>
      obtain ⟨inScope, held, _⟩ := sound.framed frame (by simp)
      have isModule : generator.IsModule start (generator.Within start roots) frame.name
          frame.repository space := ⟨inScope, held, by simp [next]⟩
      obtain ⟨after, created⟩ := supplied.create sound.under isModule
      rw [refused] at created
      cases created

theorem pass_up_because (frames : List Frame) (failure : Failure) :
    ∃ passed, passUp frames (.failed failure) = .failed passed ∧ passed.cause = failure.cause := by
  induction frames with
  | nil => exact ⟨failure, rfl, rfl⟩
  | cons frame rest ih =>
      obtain ⟨passed, same, cause⟩ := ih
      have unfolded : passUp (frame :: rest) (.failed failure) =
          frame.annotate (passUp rest (.failed failure)) := rfl
      rw [unfolded, same]
      unfold Frame.annotate
      cases frame.opened with
      | none => exact ⟨passed, rfl, cause⟩
      | some space => exact ⟨_, rfl, by simp only [Failure.annotate_cause, cause]⟩

/-- A generation below supplied roots that fails has met a cycle, to which the repository worked on
last leads. -/
theorem stopped_by_cycle (supplied : Supplied generator start roots)
    (stopped : generator.generate roots start = .error stop after) :
    ∃ outer frame done failure cycle,
      generator.Steps (start.links generator.input) roots ⟨start, [], []⟩
        ⟨after, outer ++ [frame], done⟩ ∧
      frame.opened.isSome ∧ stop = .failed failure ∧ failure.cause = .cycle cycle ∧
      (start.links generator.input).IsCycle cycle ∧
      ∃ first ∈ cycle.head?, (start.links generator.input).Reaches frame.name first ∧
        (start.links generator.input).Reaches first first := by
  obtain ⟨run, active, done, raised, steps, raises, rfl⟩ :=
    (generate_steps generator start roots).of_error stopped
  have begun : Moment.Sound generator start (generator.Within start roots) ⟨start, [], []⟩ :=
    ⟨underway_refl generator start _, by simp⟩
  have sound := steps.sound_within begun
  obtain ⟨outer, frame, order, seen, cycle, last, opened, course, rfl, rfl⟩ :=
    raises.of_supplied supplied sound
  obtain ⟨genuine, first, head, met, around⟩ := course.cycle_met
  obtain ⟨_, held, _⟩ := sound.framed frame (by rw [last]; simp)
  have found : start.links generator.input frame.name = some frame.repository.includes := by
    simp [Run.links, held]
  obtain ⟨failure, passed, cause⟩ := pass_up_because active { cause := .cycle cycle }
  dsimp only at last
  rw [last] at steps
  exact ⟨outer, frame, done, failure, cycle, steps, opened, passed, cause, genuine, first, head,
    (Links.met_iff_reaches found).mp met, Links.reaches_outside_nothing.mp around⟩

/-- A document with one namespace, which includes repositories of version 1. -/
def plainDocument (name : String) (includes : List String) : List UInt8 :=
  Text.utf8Bytes ("<repository xmlns='".toList ++ coreSpace.toList ++ "'>".toList ++
    (includes.flatMap fun other =>
      "<include name='".toList ++ other.toList ++ "' version='1'/>".toList) ++
    "<namespace name='".toList ++ name.toList ++ "'/></repository>".toList)

def shelf (documents : List (String × List String)) : Generation where
  files := ⟨[(["in"], .directory), (["out"], .directory)] ++ documents.map fun entry =>
    (["in", entry.1 ++ "-1.gir"], .file (plainDocument entry.1 entry.2))⟩
  extra := []

def shelfGenerator : Generator :=
  ⟨⟨"", ["in"]⟩, ⟨"", ["out"]⟩⟩

end Generator

end ZigBindings
