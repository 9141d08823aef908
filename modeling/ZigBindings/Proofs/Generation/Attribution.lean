import Mathlib.Data.List.Basic
import ZigBindings.Proofs.Generation.BrokenOff

/-!
# What a failure is attributed to

A failure passes through all modules that are being generated when it is raised, from the innermost
one outwards. The innermost one adds its repository and its namespace to the details; to the others
it has been attributed already, and they leave it as it is.
-/

namespace ZigBindings

/-- A failure as it is raised: nothing in its details says what was being worked on. -/
structure Failure.IsUnplaced (failure : Failure) : Prop where
  repository : failure.details.lookup "repository" = none
  space : failure.details.lookup "namespace" = none

/-- A failure that has been attributed to a namespace of a repository. -/
structure Failure.IsPlaced (failure : Failure) : Prop where
  repository : (failure.details.lookup "repository").isSome
  space : (failure.details.lookup "namespace").isSome

/-- The failure attributed to a namespace of a repository, behind all that it said before. -/
def Failure.placed (failure : Failure) (repository : Repository) (space : Namespace) : Failure :=
  { failure with details := failure.details ++
      [("repository", .text repository.path), ("namespace", .text space.name)] }

def Stop.IsUnplaced (stop : Stop) : Prop :=
  ∀ failure, stop = .failed failure → failure.IsUnplaced

section Details

variable {failure : Failure} {name value : String}

theorem set_default_of_absent {details : Details} (value : Detail)
    (absent : details.lookup name = none) :
    details.setDefault name value = details ++ [(name, value)] := by
  simp [Details.setDefault, absent]

theorem annotate_of_absent (value : String) (absent : failure.details.lookup name = none) :
    failure.annotate name value =
      { failure with details := failure.details ++ [(name, .text value)] } := by
  rw [Failure.annotate, set_default_of_absent _ absent]

theorem annotate_of_present (value : String) (present : (failure.details.lookup name).isSome) :
    failure.annotate name value = failure := by
  simp [Failure.annotate, Details.setDefault, present]

theorem Failure.IsUnplaced.annotate (unplaced : failure.IsUnplaced) (repository : Repository)
    (space : Namespace) :
    (failure.annotate "repository" repository.path).annotate "namespace" space.name =
      failure.placed repository space := by
  rw [annotate_of_absent _ unplaced.repository, annotate_of_absent, Failure.placed]
  · simp
  · simp [List.lookup_append, unplaced.space]

theorem Failure.IsUnplaced.placed (unplaced : failure.IsUnplaced) (repository : Repository)
    (space : Namespace) : (failure.placed repository space).IsPlaced := by
  constructor
  · simp [Failure.placed, List.lookup_append, unplaced.repository]
  · simp [Failure.placed, List.lookup_append, unplaced.space, List.lookup_cons]

theorem Failure.IsPlaced.annotate (placed : failure.IsPlaced) (repository : Repository)
    (space : Namespace) :
    (failure.annotate "repository" repository.path).annotate "namespace" space.name = failure := by
  rw [annotate_of_present _ placed.repository, annotate_of_present _ placed.space]

theorem unplaced_because {cause : Cause} {key : String} {value : Detail}
    (details : cause.details = [(key, value)]) (other : key ≠ "repository" ∧ key ≠ "namespace") :
    (Stop.because cause).IsUnplaced := by
  intro failure same
  cases same
  have absent {name : String} (different : key ≠ name) : cause.details.lookup name = none := by
    rw [details, List.lookup_cons, beq_eq_false_iff_ne.mpr different.symm]
    rfl
  exact ⟨absent other.1, absent other.2⟩

end Details

theorem Loader.Refused.unplaced {τ : Type} {loader : Loader τ} {run : Run τ} {name : String}
    {stop : Stop} {records : List LogRecord}
    (refused : loader.Refused run name stop records) : stop.IsUnplaced := by
  cases refused with
  | untold => exact nofun
  | absent => exact unplaced_because rfl (by decide)
  | unread _ refused =>
      rcases read_refusal refused with ⟨cause, rfl, _, details⟩ | ⟨encoding, rfl⟩
      · exact unplaced_because details (by decide)
      · exact nofun

namespace Generator

/-- What is raised at a moment, before anything is added to it, and the frames of the modules that
are being generated then, each with its namespace. The module whose file cannot be created is one of
them. -/
inductive Arises (generator : Generator) (links : Links) (roots : List String) :
    Moment → List Frame → Stop → Generation → Prop
  | inside {run after : Generation} {active done : List Frame} {stop : Stop}
      (busy : ∀ frame ∈ active.getLast?, frame.opened.isSome)
      (raises : generator.Raised links roots ⟨run, active, done⟩ stop after) :
      Arises generator links roots ⟨run, active, done⟩ active stop after
  | blocked {run after : Generation} {outer done : List Frame} {frame : Frame} {space : Namespace}
      {rest : List Namespace} {stop : Stop} (idle : frame.opened = none)
      (next : frame.repository.namespaces = frame.written ++ space :: rest)
      (refused : createModule (generator.modulePath space.name) run = .error stop after) :
      Arises generator links roots ⟨run, outer ++ [frame], done⟩ (outer ++ [frame.open_ space])
        stop after

/-- A stop is raised in the course of a generation while the modules of the frames `calling` are
being generated, the outermost first. -/
def RaisedWithin (generator : Generator) (start : Generation) (roots : List String)
    (calling : List Frame) (stop : Stop) (after : Generation) : Prop :=
  ∃ run active done,
    generator.Steps (start.links generator.input) roots ⟨start, [], []⟩ ⟨run, active, done⟩ ∧
    generator.Arises (start.links generator.input) roots ⟨run, active, done⟩ calling stop after

variable {generator : Generator} {start run after : Generation} {links : Links}
  {roots : List String} {moment : Moment} {calling outer : List Frame} {frame : Frame}
  {space : Namespace} {stop : Stop} {failure : Failure}

theorem pass_up_append (outer inner : List Frame) (stop : Stop) :
    passUp (outer ++ inner) stop = passUp outer (passUp inner stop) :=
  List.foldr_append

theorem pass_up_of_placed (frames : List Frame) (placed : failure.IsPlaced) :
    passUp frames (.failed failure) = .failed failure := by
  induction frames with
  | nil => rfl
  | cons frame rest ih =>
      have unfolded : passUp (frame :: rest) (.failed failure) =
          frame.annotate (passUp rest (.failed failure)) := rfl
      rw [unfolded, ih, Frame.annotate]
      cases frame.opened with
      | none => rfl
      | some space => exact congrArg Stop.failed (placed.annotate frame.repository space)

theorem pass_up_of_unplaced (outer : List Frame) (opened : frame.opened = some space)
    (unplaced : failure.IsUnplaced) :
    passUp (outer ++ [frame]) (.failed failure) =
      .failed (failure.placed frame.repository space) := by
  have innermost : passUp [frame] (.failed failure) =
      .failed (failure.placed frame.repository space) := by
    have unfolded : passUp [frame] (.failed failure) = frame.annotate (.failed failure) := rfl
    rw [unfolded, Frame.annotate, opened]
    exact congrArg Stop.failed (unplaced.annotate frame.repository space)
  rw [pass_up_append, innermost, pass_up_of_placed outer (unplaced.placed _ _)]

theorem failed_of_pass_up {frames : List Frame} (passed : passUp frames stop = .failed failure) :
    ∃ raised, stop = .failed raised := by
  induction frames generalizing failure with
  | nil => exact ⟨failure, passed⟩
  | cons frame rest ih =>
      have unfolded : passUp (frame :: rest) stop = frame.annotate (passUp rest stop) := rfl
      cases inner : passUp rest stop with
      | failed lower => exact ih inner
      | _ =>
          rw [unfolded, inner, Frame.annotate] at passed
          cases opened : frame.opened <;> rw [opened] at passed <;> cases passed

section Arises

theorem arises_of_raised {active done : List Frame}
    (raises : generator.Raised links roots ⟨run, active, done⟩ stop after) :
    ∃ calling raised, generator.Arises links roots ⟨run, active, done⟩ calling raised after ∧
      passUp active stop = passUp calling raised := by
  cases raises with
  | @cycle _ outer _ frame space order seen cycle opened course known =>
      exact ⟨_, _, .inside (by simp [opened]) (.cycle opened course known), rfl⟩
  | unread fresh missing asks refused =>
      refine ⟨_, _, .inside (fun top last => ?_) (.unread fresh missing asks refused), rfl⟩
      unfold Asks at asks
      rw [Option.mem_def.mp last] at asks
      exact asks.1
  | @blocked _ _ outer _ frame space rest stop idle next refused =>
      refine ⟨_, stop, .blocked idle next refused, ?_⟩
      have passed : passUp [frame] ((frame.open_ space).annotate stop) =
          passUp [frame.open_ space] stop := by
        simp [passUp, Frame.annotate, idle]
      rw [pass_up_append, pass_up_append, passed]

theorem Arises.unplaced (arises : generator.Arises links roots moment calling stop after) :
    stop.IsUnplaced := by
  cases arises with
  | inside busy raises =>
      cases raises with
      | cycle => exact unplaced_because rfl (by decide)
      | @unread _ _ _ _ _ _ depth _ _ missing _ stopped =>
          obtain ⟨_, refused, _⟩ :=
            Loader.refused_of_load (generator.loader depth) missing stopped
          exact refused.unplaced
      | blocked idle _ _ => simp [idle] at busy
  | blocked _ _ refused =>
      obtain ⟨reason, rfl, _⟩ := create_error refused
      exact unplaced_because rfl (by decide)

theorem Arises.last_opened
    (arises : generator.Arises links roots moment (outer ++ [frame]) stop after) :
    frame.opened.isSome := by
  generalize isCalling : outer ++ [frame] = calling at arises
  cases arises with
  | inside busy _ =>
      subst isCalling
      exact busy frame (by simp)
  | blocked =>
      cases List.append_inj_right' isCalling rfl
      rfl

theorem Arises.tower (arises : generator.Arises links roots moment calling stop after)
    (stacked : Stacked links moment) :
    calling.Pairwise fun outer inner => outer.Awaits links inner.name := by
  cases arises with
  | inside => exact stacked.tower
  | @blocked _ _ _ _ frame space _ _ _ _ _ =>
      have same : (frame.open_ space).name = frame.name := rfl
      exact tower_replace _ same stacked.tower

theorem Arises.opened (arises : generator.Arises links roots moment calling stop after)
    (stacked : Stacked links moment) : ∀ frame ∈ calling, frame.opened.isSome := by
  intro frame member
  rcases calling.eq_nil_or_concat' with rfl | ⟨outer, top, rfl⟩
  · cases member
  · rcases List.mem_append.mp member with below | last
    · have tower := arises.tower stacked
      exact ((List.pairwise_append.mp tower).2.2 frame below top (by simp)).opened
    · rw [List.mem_singleton.mp last]
      exact arises.last_opened

theorem Arises.root (arises : generator.Arises links roots moment [] stop after) :
    ∃ root ∈ roots, moment.run.registered? root = none ∧
      moment.run.files.document? generator.input root = none := by
  generalize isCalling : ([] : List Frame) = calling at arises
  cases arises with
  | inside _ raises =>
      subst isCalling
      generalize isActive : ([] : List Frame) = active at raises
      cases raises with
      | cycle => simp at isActive
      | unread fresh missing asks _ =>
          subst isActive
          exact ⟨_, asks, fresh, missing⟩
      | blocked => simp at isActive
  | blocked => simp at isCalling

end Arises

/-- A failure of a generation is attributed to the module that was being generated when it was
raised, the innermost one if there were several, each waiting for the next: its repository and its
namespace stand behind the details that the failure was raised with. If no module was being
generated, it is a root that could not be loaded, and nothing has been added. -/
theorem failures_name_innermost (generator : Generator) (start after : Generation)
    (roots : List String) (failure : Failure) (nothing : start.registry = [])
    (unlisted : start.extra = [])
    (stopped : generator.generate roots start = .error (.failed failure) after) :
    ∃ calling raised, generator.RaisedWithin start roots calling (.failed raised) after ∧
      (calling.Pairwise fun outer inner =>
        outer.Awaits (start.links generator.input) inner.name) ∧
      (∀ frame ∈ calling, frame.opened.isSome) ∧ failure.cause = raised.cause ∧
      (calling = [] → failure.details = raised.details ∧ ∃ root ∈ roots,
        after.registered? root = none ∧ after.files.document? generator.input root = none) ∧
      ∀ outer frame space, calling = outer ++ [frame] → frame.opened = some space →
        failure.details = raised.details ++
          [("repository", .text frame.repository.path), ("namespace", .text space.name)] := by
  obtain ⟨active, done, run, stop, steps, raises, same⟩ := broken_off_of_error stopped
  obtain ⟨calling, raised, arises, passed⟩ := arises_of_raised raises
  have accounted := steps.accounted (accounted_start generator roots nothing unlisted)
  rw [passed] at same
  have original := arises.unplaced
  -- Nothing is passed up as a failure that has not been raised as one.
  obtain ⟨raised, rfl⟩ := failed_of_pass_up same.symm
  refine ⟨calling, raised, ⟨run, active, done, steps, arises⟩, arises.tower accounted.stacked,
    arises.opened accounted.stacked, ?_⟩
  rcases calling.eq_nil_or_concat' with rfl | ⟨outer, top, rfl⟩
  · cases same
    obtain ⟨records, rfl⟩ := raises.noted
    refine ⟨rfl, fun _ => ⟨rfl, arises.root⟩, fun outer frame space split => ?_⟩
    simp at split
  · obtain ⟨current, opened⟩ := Option.isSome_iff_exists.mp arises.last_opened
    rw [pass_up_of_unplaced outer opened (original raised rfl)] at same
    cases same
    refine ⟨rfl, fun empty => ?_, fun outer' frame space split isOpen => ?_⟩
    · simp at empty
    · cases List.append_inj_right' split rfl
      rw [opened] at isOpen
      cases isOpen
      rfl

/-- The failure of a document that is missing two repositories down is attributed to the module that
includes it, and not to the one that includes that one. -/
theorem failures_name_innermost_nested :
    ∃ after calling raised,
      shelfGenerator.generate ["A-1.gir"] (shelf [("A", ["B"]), ("B", ["C"])]) =
        .error (.failed ⟨.unknownRepository "C-1.gir" "in" "in/C-1.gir",
          [("path", .text "in/C-1.gir"), ("repository", .text "in/B-1.gir"),
            ("namespace", .text "B")]⟩) after ∧
      shelfGenerator.RaisedWithin (shelf [("A", ["B"]), ("B", ["C"])]) ["A-1.gir"] calling
        (.failed raised) after ∧
      raised.cause = .unknownRepository "C-1.gir" "in" "in/C-1.gir" ∧
      ∀ outer frame space, calling = outer ++ [frame] → frame.opened = some space →
        [("path", Detail.text "in/C-1.gir"), ("repository", .text "in/B-1.gir"),
          ("namespace", .text "B")] = raised.details ++
            [("repository", .text frame.repository.path), ("namespace", .text space.name)] := by
  have checked : ∃ result ∈ (shelfGenerator.generate ["A-1.gir"]).stopped?
        (shelf [("A", ["B"]), ("B", ["C"])]),
      result.1 = .failed ⟨.unknownRepository "C-1.gir" "in" "in/C-1.gir",
        [("path", .text "in/C-1.gir"), ("repository", .text "in/B-1.gir"),
          ("namespace", .text "B")]⟩ := by
    decide +kernel
  obtain ⟨⟨stop, after⟩, stopped, rfl⟩ := checked
  have made := Action.of_stopped stopped
  obtain ⟨calling, raised, within, _, _, cause, _, innermost⟩ := failures_name_innermost shelfGenerator
    (shelf [("A", ["B"]), ("B", ["C"])]) after ["A-1.gir"] _ rfl rfl made
  exact ⟨after, calling, raised, made, within, cause.symm, innermost⟩

end Generator

end ZigBindings
