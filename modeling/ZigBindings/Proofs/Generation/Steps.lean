import Mathlib.Logic.Relation
import ZigBindings.Proofs.Generation.Underway
import ZigBindings.Proofs.Include.Course

/-!
# The steps of a generation

What a generation does, one thing after the other: it notes something, loads a repository, opens the
file of a module, writes it, and finishes a repository. The repositories that are being worked on
form a stack. Everything about whole generations is proved of single steps and carried along.
-/

namespace ZigBindings

namespace Generator

/-- A repository that is being worked on or has been finished: which of its modules have been
written, and which one is open. -/
structure Frame where
  name : String
  repository : Repository
  written : List Namespace := []
  opened : Option Namespace := none

def Frame.open_ (frame : Frame) (space : Namespace) : Frame :=
  { frame with opened := some space }

def Frame.write (frame : Frame) (space : Namespace) : Frame :=
  { frame with written := frame.written ++ [space], opened := none }

def Frame.complete (frame : Frame) : Frame :=
  { frame with written := frame.repository.namespaces, opened := none }

/-- A generation between two steps: the run, the repositories being worked on, outermost first, and
those that have been finished. -/
structure Moment where
  run : Generation
  active : List Frame := []
  done : List Frame := []

/-- Whether a name is asked for: as a root, or by the repository worked on last, whose includes lead
to it. -/
def Asks (links : Links) (roots : List String) (active : List Frame) (name : String) : Prop :=
  match active.getLast? with
  | none => name ∈ roots
  | some top => top.opened.isSome ∧ links.Reaches top.name name

/-- One step. A module is written when the walk through the includes has finished and all it has
taken up has been registered; without any import its file is still empty. -/
inductive Step (generator : Generator) (links : Links) (roots : List String) :
    Moment → Moment → Prop
  | note {run : Generation} {active done : List Frame} (records : List LogRecord)
      (quiet : ∀ record ∈ records, record.level = .debug) :
      Step generator links roots ⟨run, active, done⟩ ⟨run.note records, active, done⟩
  | load {run : Generation} {active done : List Frame} {name : String} {repository : Repository}
      (fresh : run.registered? name = none)
      (held : run.files.document? generator.input name = some repository)
      (asks : Asks links roots active name) :
      Step generator links roots ⟨run, active, done⟩
        ⟨run.enlist generator.input name repository, active ++ [⟨name, repository, [], none⟩], done⟩
  | open_ {run after : Generation} {outer done : List Frame} {frame : Frame} {space : Namespace}
      {rest : List Namespace} (idle : frame.opened = none)
      (next : frame.repository.namespaces = frame.written ++ space :: rest)
      (created : createModule (generator.modulePath space.name) run = .ok () after) :
      Step generator links roots ⟨run, outer ++ [frame], done⟩
        ⟨after, outer ++ [frame.open_ space], done⟩
  | write {run : Generation} {outer done : List Frame} {frame : Frame} {space : Namespace}
      {order : List Include} {seen : List String} (opened : frame.opened = some space)
      (course : Course links [] [] frame.repository.includes order seen .finished)
      (known : ∀ source ∈ sourcesOf order, (run.registered? source).isSome)
      (blank : headerLines space.name order = [] → Blank run (generator.modulePath space.name)) :
      Step generator links roots ⟨run, outer ++ [frame], done⟩
        ⟨writeModule (generator.modulePath space.name)
            (space.moduleText (headerLines space.name order ++ [""]))
            (run.note (space.variadics.map .variadic)),
          outer ++ [frame.write space], done⟩
  | finish {run : Generation} {outer done : List Frame} {frame : Frame} (idle : frame.opened = none)
      (complete : frame.written = frame.repository.namespaces) :
      Step generator links roots ⟨run, outer ++ [frame], done⟩ ⟨run, outer, done ++ [frame]⟩

abbrev Steps (generator : Generator) (links : Links) (roots : List String) :
    Moment → Moment → Prop :=
  Relation.ReflTransGen (generator.Step links roots)

variable {generator : Generator} {links : Links} {roots : List String} {moment later : Moment}

theorem Step.grown (step : generator.Step links roots moment later) :
    moment.run.Grown later.run := by
  cases step with
  | note records _ => exact grown_note _ records
  | load fresh _ _ => exact grown_enlist fresh _ _
  | open_ _ _ created =>
      obtain ⟨_, _, _, rfl⟩ := create_ok created
      exact grown_of_registry rfl
  | write => exact (grown_note _ _).trans (grown_of_registry (write_registry _ _ _))
  | finish => exact grown_refl _

theorem Steps.grown (steps : generator.Steps links roots moment later) :
    moment.run.Grown later.run := by
  induction steps with
  | refl => exact grown_refl _
  | tail _ step ih => exact ih.trans step.grown

section Mono

variable {larger : Links} {others : List String}
  (more : ∀ source includes, links source = some includes → larger source = some includes)
  (wider : roots ⊆ others)

include more wider

theorem Asks.mono {active : List Frame} {name : String} (asks : Asks links roots active name) :
    Asks larger others active name := by
  unfold Asks at asks ⊢
  cases last : active.getLast? with
  | none =>
      rw [last] at asks
      exact wider asks
  | some top =>
      rw [last] at asks
      exact ⟨asks.1, Links.reaches_mono more asks.2⟩

theorem Step.mono (step : generator.Step links roots moment later) :
    generator.Step larger others moment later := by
  cases step with
  | note records quiet => exact .note records quiet
  | load fresh held asks => exact .load fresh held (asks.mono more wider)
  | open_ idle next created => exact .open_ idle next created
  | write opened course known blank => exact .write opened (course.mono more) known blank
  | finish idle complete => exact .finish idle complete

theorem Steps.mono (steps : generator.Steps links roots moment later) :
    generator.Steps larger others moment later :=
  Relation.ReflTransGen.mono (fun _ _ step => Step.mono more wider step) _ _ steps

end Mono

abbrev Below (generator : Generator) (run : Generation) (root : String) : String → Prop :=
  Relation.ReflTransGen (run.links generator.input).Edge root

def Within (generator : Generator) (run : Generation) (roots : List String)
    (name : String) : Prop :=
  ∃ root ∈ roots, generator.Below run root name

/-- A moment of a generation that is underway: the repositories in its frames are in scope and what
their names stood for at the start. -/
structure Moment.Sound (generator : Generator) (start : Generation) (scope : String → Prop)
    (moment : Moment) : Prop where
  under : generator.Underway start scope moment.run
  framed : ∀ frame ∈ moment.active, scope frame.name ∧
    start.repository? generator.input frame.name = some frame.repository ∧
    ∀ space ∈ frame.opened, space ∈ frame.repository.namespaces

section Sound

variable {start : Generation} {scope : String → Prop}

theorem scope_of_asks {active : List Frame} {name : String} (asks : Asks links roots active name)
    (asked : ∀ root ∈ roots, scope root)
    (closed : ∀ source target, scope source → links.Edge source target → scope target)
    (framed : ∀ frame ∈ active, scope frame.name) : scope name := by
  unfold Asks at asks
  cases last : active.getLast? with
  | none =>
      rw [last] at asks
      exact asked name asks
  | some top =>
      rw [last] at asks
      have inScope := framed top (List.mem_of_getLast? last)
      obtain ⟨_, reaches⟩ := asks
      induction reaches with
      | single edge => exact closed _ _ inScope edge
      | tail _ edge ih => exact closed _ _ ih edge

theorem Step.sound (step : generator.Step (start.links generator.input) roots moment later)
    (asked : ∀ root ∈ roots, scope root)
    (closed : ∀ source target, scope source →
      (start.links generator.input).Edge source target → scope target)
    (sound : moment.Sound generator start scope) : later.Sound generator start scope := by
  obtain ⟨under, framed⟩ := sound
  cases step with
  | note records _ => exact ⟨under.note records, framed⟩
  | load fresh held asks =>
      have repository := under.document fresh held
      have inScope := scope_of_asks asks asked closed fun frame member => (framed frame member).1
      refine ⟨under.enlist fresh repository, fun frame member => ?_⟩
      rcases List.mem_append.mp member with old | new
      · exact framed frame old
      · rw [List.mem_singleton.mp new]
        exact ⟨inScope, repository, by simp⟩
  | @open_ _ _ outer _ frame space rest idle next created =>
      obtain ⟨inScope, held, _⟩ := framed frame (by simp)
      have listed : space ∈ frame.repository.namespaces := by simp [next]
      refine ⟨under.create ⟨inScope, held, listed⟩ created, fun other member => ?_⟩
      rcases List.mem_append.mp member with old | new
      · exact framed other (by simp [old])
      · rw [List.mem_singleton.mp new]
        refine ⟨inScope, held, fun space' same => ?_⟩
        cases same
        exact listed
  | @write _ outer _ frame space order seen opened course known blank =>
      obtain ⟨inScope, held, listed⟩ := framed frame (by simp)
      have isModule : generator.IsModule start scope frame.name frame.repository space :=
        ⟨inScope, held, listed space opened⟩
      refine ⟨(under.note _).write isModule blank, fun other member => ?_⟩
      rcases List.mem_append.mp member with old | new
      · exact framed other (by simp [old])
      · rw [List.mem_singleton.mp new]
        exact ⟨inScope, held, by simp [Frame.write]⟩
  | finish _ _ => exact ⟨under, fun other member => framed other (by simp [member])⟩

theorem Steps.sound (steps : generator.Steps (start.links generator.input) roots moment later)
    (asked : ∀ root ∈ roots, scope root)
    (closed : ∀ source target, scope source →
      (start.links generator.input).Edge source target → scope target)
    (sound : moment.Sound generator start scope) : later.Sound generator start scope := by
  induction steps with
  | refl => exact sound
  | tail _ step ih => exact step.sound asked closed ih

theorem within_root (generator : Generator) (start : Generation) {root : String}
    (member : root ∈ roots) : generator.Within start roots root :=
  ⟨root, member, .refl⟩

theorem Within.onward {source target : String} (within : generator.Within start roots source)
    (edge : (start.links generator.input).Edge source target) :
    generator.Within start roots target := by
  obtain ⟨root, member, below⟩ := within
  exact ⟨root, member, below.tail edge⟩

theorem Within.reached {source target : String} (within : generator.Within start roots source)
    (reaches : (start.links generator.input).Reaches source target) :
    generator.Within start roots target := by
  obtain ⟨root, member, below⟩ := within
  exact ⟨root, member, below.trans reaches.to_reflTransGen⟩

theorem Steps.sound_within
    (steps : generator.Steps (start.links generator.input) roots moment later)
    (sound : moment.Sound generator start (generator.Within start roots)) :
    later.Sound generator start (generator.Within start roots) :=
  steps.sound (fun _ member => within_root generator start member)
    (fun _ _ within edge => within.onward edge) sound

end Sound

end Generator

end ZigBindings
