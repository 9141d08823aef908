import ZigBindings.Proofs.Generation.Header
import ZigBindings.Proofs.Generation.Steps
import ZigBindings.Proofs.Outcome

/-!
# Generations take steps

Resolving a name, at whatever depth, takes steps. It ends with the name registered and the stack as
it was, or at a moment at which something is raised and passed up the stack. The depth that is
handed down suffices for every graph, acyclic or not.
-/

namespace ZigBindings

namespace Generator

def Frame.annotate (frame : Frame) (stop : Stop) : Stop :=
  match frame.opened with
  | some space =>
    (stop.annotate "repository" frame.repository.path).annotate "namespace" space.name
  | none => stop

/-- A stop as it has been passed up through frames, the innermost last. -/
def passUp (frames : List Frame) (stop : Stop) : Stop :=
  frames.foldr Frame.annotate stop

/-- What can be raised at a moment, and the run that it leaves: a cycle that the walk of the open
module meets, a document that holds no repository, or a module whose file cannot be created. -/
inductive Raised (generator : Generator) (links : Links) (roots : List String) :
    Moment → Stop → Generation → Prop
  | cycle {run : Generation} {outer done : List Frame} {frame : Frame} {space : Namespace}
      {order : List Include} {seen cycle : List String} (opened : frame.opened = some space)
      (course : Course links [] [] frame.repository.includes order seen (.cycle cycle))
      (known : ∀ source ∈ sourcesOf order, (run.registered? source).isSome) :
      Raised generator links roots ⟨run, outer ++ [frame], done⟩ (.because (.cycle cycle)) run
  | unread {run after : Generation} {active done : List Frame} {name : String} {stop : Stop}
      {depth : Nat} {resolve : Resolve (List Path)} (fresh : run.registered? name = none)
      (missing : run.files.document? generator.input name = none)
      (asks : Asks links roots active name)
      (refused : (generator.loader depth).loadWith resolve name run = .error stop after) :
      Raised generator links roots ⟨run, active, done⟩ stop after
  | blocked {run after : Generation} {outer done : List Frame} {frame : Frame} {space : Namespace}
      {rest : List Namespace} {stop : Stop} (idle : frame.opened = none)
      (next : frame.repository.namespaces = frame.written ++ space :: rest)
      (refused : createModule (generator.modulePath space.name) run = .error stop after) :
      Raised generator links roots ⟨run, outer ++ [frame], done⟩
        ((frame.open_ space).annotate stop) after

/-- Steps lead to a moment at which something is raised, and it is passed up to the frames
`outer`. -/
def Stopped (generator : Generator) (links : Links) (roots : List String) (moment : Moment)
    (outer : List Frame) (stop : Stop) (after : Generation) : Prop :=
  ∃ run deeper done raised,
    generator.Steps links roots moment ⟨run, outer ++ deeper, done⟩ ∧
    generator.Raised links roots ⟨run, outer ++ deeper, done⟩ raised after ∧
    stop = passUp deeper raised

/-- Names that hold the roots and are closed under including, and a list of them. -/
structure Enclosed (generator : Generator) (start : Generation) (roots : List String)
    (scope : String → Prop) (names : List String) : Prop where
  asked : ∀ root ∈ roots, scope root
  closed : ∀ source target, scope source →
    (start.links generator.input).Edge source target → scope target
  listed : ∀ name, scope name → name ∈ names

/-- A resolver that takes steps, as long as no more than `bound` of the given names are missing. -/
def Resolves (generator : Generator) (start : Generation) (roots : List String)
    (scope : String → Prop) (names : List String) (bound : Nat)
    (resolve : Resolve (List Path)) : Prop :=
  ∀ (moment : Moment) (name : String), moment.Sound generator start scope → scope name →
    Asks (start.links generator.input) roots moment.active name →
    (moment.run.missing names).length ≤ bound →
    (resolve name).Ends moment.run
      (fun loaded after => (∃ done, generator.Steps (start.links generator.input) roots moment
        ⟨after, moment.active, done⟩) ∧ after.registered? name = some loaded)
      (generator.Stopped (start.links generator.input) roots moment moment.active)

variable {generator : Generator} {start run after : Generation} {links : Links}
  {roots names : List String} {scope : String → Prop} {moment : Moment} {bound depth : Nat}
  {resolve : Resolve (List Path)} {name : String} {repository : Repository}

theorem asks_of_open {outer : List Frame} {frame : Frame} {space : Namespace} {source : String}
    (opened : frame.opened = some space) (reaches : links.Reaches frame.name source) :
    Asks links roots (outer ++ [frame]) source := by
  unfold Asks
  rw [List.getLast?_concat]
  exact ⟨by simp [opened], reaches⟩

theorem Stopped.after_steps {earlier : Moment} {outer : List Frame} {stop : Stop}
    (steps : generator.Steps links roots earlier moment)
    (stopped : generator.Stopped links roots moment outer stop after) :
    generator.Stopped links roots earlier outer stop after := by
  obtain ⟨run, deeper, done, raised, more, raises, same⟩ := stopped
  exact ⟨run, deeper, done, raised, steps.trans more, raises, same⟩

theorem Stopped.through {outer : List Frame} {frame : Frame} {stop : Stop}
    (stopped : generator.Stopped links roots moment (outer ++ [frame]) stop after) :
    generator.Stopped links roots moment outer (frame.annotate stop) after := by
  obtain ⟨run, deeper, done, raised, steps, raises, rfl⟩ := stopped
  rw [List.append_assoc] at steps raises
  exact ⟨run, frame :: deeper, done, raised, steps, raises, rfl⟩

theorem Enclosed.sound (enclosed : generator.Enclosed start roots scope names) {later : Moment}
    (sound : moment.Sound generator start scope)
    (steps : generator.Steps (start.links generator.input) roots moment later) :
    later.Sound generator start scope :=
  steps.sound enclosed.asked enclosed.closed sound

theorem Enclosed.reached (enclosed : generator.Enclosed start roots scope names)
    {source target : String} (inScope : scope source)
    (reaches : (start.links generator.input).Reaches source target) : scope target := by
  induction reaches with
  | single edge => exact enclosed.closed _ _ inScope edge
  | tail _ edge ih => exact enclosed.closed _ _ ih edge

theorem stopped_here {outer done : List Frame} {stop : Stop}
    (raises : generator.Raised links roots ⟨run, outer, done⟩ stop after) :
    generator.Stopped links roots ⟨run, outer, done⟩ outer stop after := by
  refine ⟨run, [], done, stop, ?_, ?_, rfl⟩
  · rw [List.append_nil]
  · rw [List.append_nil]
    exact raises

theorem fewer_of_steps {later : Moment} (few : (moment.run.missing names).length ≤ bound)
    (steps : generator.Steps links roots moment later) :
    (later.run.missing names).length ≤ bound :=
  (missing_le_of_grown steps.grown names).trans few

section Walks

variable {active outer done : List Frame} {frame : Frame} {space : Namespace}

theorem asked_steps (enclosed : generator.Enclosed start roots scope names)
    (resolves : generator.Resolves start roots scope names bound resolve)
    {sources : List String} (asked : Walk.Asked (includesOf resolve) run sources after)
    (sound : Moment.Sound generator start scope ⟨run, active, done⟩)
    (few : (run.missing names).length ≤ bound)
    (asks : ∀ source ∈ sources, scope source ∧
      Asks (start.links generator.input) roots active source) :
    ∃ later, generator.Steps (start.links generator.input) roots ⟨run, active, done⟩
        ⟨after, active, later⟩ ∧
      ∀ source ∈ sources, (after.registered? source).isSome := by
  induction asked generalizing done with
  | nothing => exact ⟨done, .refl, by simp⟩
  | @next run middle after source rest includes answered others ih =>
      obtain ⟨loaded, resolved, _⟩ := includes_apply_ok answered
      obtain ⟨inScope, asksFirst⟩ := asks source (by simp)
      have first := resolves ⟨run, active, done⟩ source sound inScope asksFirst few
      obtain ⟨⟨later, steps⟩, registered⟩ := first.of_ok resolved
      obtain ⟨last, more, known⟩ := ih (enclosed.sound sound steps) (fewer_of_steps few steps)
        fun other member => asks other (by simp [member])
      refine ⟨last, steps.trans more, fun other member => ?_⟩
      rcases List.mem_cons.mp member with rfl | member
      · rw [more.grown _ loaded registered]
        rfl
      · exact known other member

/-- For the walk that makes the header of an open module, resolving gives what the start says. What
holds outside of the walk is that steps have led from the start of the header to there. -/
theorem includes_answer (enclosed : generator.Enclosed start roots scope names)
    (resolves : generator.Resolves start roots scope names bound resolve)
    (opened : frame.opened = some space)
    (sound : Moment.Sound generator start scope ⟨run, outer ++ [frame], done⟩)
    (few : (run.missing names).length ≤ bound) :
    Walk.Answers (includesOf resolve) (start.links generator.input)
      ((start.links generator.input).Reaches frame.name) fun later => ∃ finished,
        generator.Steps (start.links generator.input) roots ⟨run, outer ++ [frame], done⟩
          ⟨later, outer ++ [frame], finished⟩ := by
  obtain ⟨inScope, _, _⟩ := sound.framed frame (by simp)
  rintro source middle includes after reaches ⟨finished, steps⟩ answered
  obtain ⟨loaded, resolved, rfl⟩ := includes_apply_ok answered
  have soundMiddle := enclosed.sound sound steps
  have outcome := resolves ⟨middle, outer ++ [frame], finished⟩ source soundMiddle
    (enclosed.reached inScope reaches) (asks_of_open opened reaches) (fewer_of_steps few steps)
  obtain ⟨⟨later, more⟩, registered⟩ := outcome.of_ok resolved
  have held := (enclosed.sound soundMiddle more).under.drawn source loaded registered
  exact ⟨by simp [Run.links, held], later, steps.trans more⟩

theorem header_steps (enclosed : generator.Enclosed start roots scope names)
    (resolves : generator.Resolves start roots scope names bound resolve)
    (deep : names.length < depth) (opened : frame.opened = some space)
    (sound : Moment.Sound generator start scope ⟨run, outer ++ [frame], done⟩)
    (few : (run.missing names).length ≤ bound) :
    (header resolve depth space.name frame.repository.includes).Ends run
      (fun lines after => ∃ order seen later,
        generator.Steps (start.links generator.input) roots ⟨run, outer ++ [frame], done⟩
          ⟨after, outer ++ [frame], later⟩ ∧
        Course (start.links generator.input) [] [] frame.repository.includes order seen .finished ∧
        (∀ source ∈ sourcesOf order, (after.registered? source).isSome) ∧
        lines = headerLines space.name order ∧ (order = [] → after = run))
      (generator.Stopped (start.links generator.input) roots ⟨run, outer ++ [frame], done⟩
        (outer ++ [frame])) := by
  obtain ⟨inScope, held, _⟩ := sound.framed frame (by simp)
  have found : start.links generator.input frame.name = some frame.repository.includes := by
    simp [Run.links, held]
  have inside : ∀ source, (start.links generator.input).Reaches frame.name source →
      scope source := fun source => enclosed.reached inScope
  have closed : Walk.Domain (start.links generator.input)
      ((start.links generator.input).Reaches frame.name) names :=
    ⟨fun _ _ reaches edge => reaches.tail edge,
      fun source _ reaches _ => enclosed.listed source (inside source reaches)⟩
  have answers := includes_answer enclosed resolves opened sound few
  have within : ∀ entry ∈ frame.repository.includes,
      (start.links generator.input).Reaches frame.name entry.source :=
    fun entry listed => .single (Links.edge_of_links found listed)
  obtain ⟨order, seen, ending, outside, course, effect, same⟩ :=
    header_follows answers closed deep ⟨done, .refl⟩ within space.name
  have asks : ∀ source ∈ sourcesOf order, scope source ∧
      Asks (start.links generator.input) roots (outer ++ [frame]) source := by
    intro source member
    have reaches := Walk.order_within closed course within source member
    exact ⟨inside source reaches, asks_of_open opened reaches⟩
  cases effect with
  | finished asked =>
      obtain ⟨later, steps, known⟩ := asked_steps enclosed resolves asked sound few asks
      refine Action.ends_ok same ⟨order, seen, later, steps, course, known, rfl, ?_⟩
      rintro rfl
      cases asked
      rfl
  | cycle asked =>
      obtain ⟨later, steps, known⟩ := asked_steps enclosed resolves asked sound few asks
      exact Action.ends_error same
        (Stopped.after_steps steps (stopped_here (.cycle opened course known)))
  | @refused middle _ before source _ split asked refused =>
      obtain ⟨later, steps, _⟩ := asked_steps enclosed resolves asked sound few
        fun other member => asks other (by simp [split, member])
      obtain ⟨inScope, asksLast⟩ := asks source (by simp [split])
      have inner := resolves ⟨middle, outer ++ [frame], later⟩ source
        (enclosed.sound sound steps) inScope asksLast (fewer_of_steps few steps)
      exact Action.ends_error same
        (Stopped.after_steps steps (inner.of_error (includes_apply_error refused)))

theorem namespace_steps (enclosed : generator.Enclosed start roots scope names)
    (resolves : generator.Resolves start roots scope names bound resolve)
    (deep : names.length < depth) {rest : List Namespace} (idle : frame.opened = none)
    (next : frame.repository.namespaces = frame.written ++ space :: rest)
    (sound : Moment.Sound generator start scope ⟨run, outer ++ [frame], done⟩)
    (few : (run.missing names).length ≤ bound) :
    (generator.generateNamespace depth resolve frame.repository.includes space).Ends run
      (fun _ after => ∃ later,
        generator.Steps (start.links generator.input) roots ⟨run, outer ++ [frame], done⟩
          ⟨after, outer ++ [frame.write space], later⟩)
      fun stop after =>
        generator.Stopped (start.links generator.input) roots ⟨run, outer ++ [frame], done⟩
          outer ((frame.open_ space).annotate stop) after := by
  unfold generateNamespace
  refine Action.Ends.bind ⟨fun {_ middle} created => ?_, fun {stop after} refused => ?_⟩
  · have opens : generator.Steps (start.links generator.input) roots
        ⟨run, outer ++ [frame], done⟩ ⟨middle, outer ++ [frame.open_ space], done⟩ :=
      .single (.open_ idle next created)
    have made := header_steps enclosed resolves deep (by rfl) (enclosed.sound sound opens)
      (fewer_of_steps few opens)
    refine Action.Ends.bind (made.mono (fun lines after written => ?_) fun stop after stopped => ?_)
    · obtain ⟨order, seen, later, steps, course, known, rfl, still⟩ := written
      -- Without lines nothing was resolved, so that the file is as it was created.
      have blank : headerLines space.name order = [] →
          Blank after (generator.modulePath space.name) := by
        intro nothing
        rw [still (List.map_eq_nil_iff.mp (List.append_eq_nil_iff.mp nothing).1)]
        exact blank_of_create created
      have complete := (opens.trans steps).tail (.write (by rfl) course known blank)
      exact Action.Ends.bind (Action.ends_modify (Action.ends_modify ⟨later, complete⟩))
    · exact Stopped.after_steps opens stopped.through
  -- A frame without an open module adds nothing to what it passes up.
  · have passed : frame.annotate ((frame.open_ space).annotate stop) =
        (frame.open_ space).annotate stop := by
      generalize (frame.open_ space).annotate stop = annotated
      simp [Frame.annotate, idle]
    rw [← passed]
    exact (stopped_here (.blocked idle next refused)).through

theorem rest_steps (enclosed : generator.Enclosed start roots scope names)
    (resolves : generator.Resolves start roots scope names bound resolve)
    (deep : names.length < depth) {rest : List Namespace} (idle : frame.opened = none)
    (next : frame.repository.namespaces = frame.written ++ rest)
    (sound : Moment.Sound generator start scope ⟨run, outer ++ [frame], done⟩)
    (few : (run.missing names).length ≤ bound) :
    (rest.forM fun space =>
        (generator.generateNamespace depth resolve frame.repository.includes space).mapStop
          (frame.open_ space).annotate).Ends run
      (fun _ after => ∃ later,
        generator.Steps (start.links generator.input) roots ⟨run, outer ++ [frame], done⟩
          ⟨after, outer ++ [frame.complete], later⟩)
      (generator.Stopped (start.links generator.input) roots ⟨run, outer ++ [frame], done⟩
        outer) := by
  induction rest generalizing frame run done with
  | nil =>
      have complete : frame.complete = frame := by
        unfold Frame.complete
        rw [next, List.append_nil, ← idle]
      rw [complete]
      exact Action.ends_forM_nil ⟨done, .refl⟩
  | cons space rest ih =>
      have first := namespace_steps enclosed resolves deep idle next sound few
      apply Action.Ends.forM_cons
      apply Action.Ends.mapStop
      refine first.mono (fun _ middle written => ?_) fun _ _ stopped => stopped
      obtain ⟨later, steps⟩ := written
      have others := @ih middle later (frame.write space) rfl (by simp [Frame.write, next])
        (enclosed.sound sound steps) (fewer_of_steps few steps)
      refine others.mono (fun _ after complete => ?_) fun stop after stopped => ?_
      · obtain ⟨last, more⟩ := complete
        exact ⟨last, steps.trans more⟩
      · exact Stopped.after_steps steps stopped

end Walks

section Resolve

theorem known_steps {load : Resolve (List Path)} {loaded : Loaded}
    (known : moment.run.registered? name = some loaded) :
    (Loader.knownOr load name).Ends moment.run
      (fun loaded after =>
        (∃ done, generator.Steps links roots moment ⟨after, moment.active, done⟩) ∧
          after.registered? name = some loaded)
      (generator.Stopped links roots moment moment.active) := by
  have quiet : ∀ record ∈ [LogRecord.cached name], record.level = .debug := by
    simp [LogRecord.cached]
  exact Action.ends_ok (Loader.known_apply known)
    ⟨⟨moment.done, .single (.note _ quiet)⟩, known⟩

theorem load_steps (enclosed : generator.Enclosed start roots scope names)
    (resolves : generator.Resolves start roots scope names bound resolve)
    (deep : names.length < depth) (sound : moment.Sound generator start scope)
    (inScope : scope name)
    (asks : Asks (start.links generator.input) roots moment.active name)
    (fresh : moment.run.registered? name = none)
    (few : (moment.run.missing names).length ≤ bound + 1) :
    ((generator.loader depth).loadWith resolve name).Ends moment.run
      (fun loaded after => (∃ done, generator.Steps (start.links generator.input) roots moment
        ⟨after, moment.active, done⟩) ∧ after.registered? name = some loaded)
      (generator.Stopped (start.links generator.input) roots moment moment.active) := by
  cases held : moment.run.files.document? generator.input name with
  | none =>
      obtain ⟨stop, records, _, refused⟩ := (generator.loader depth).load_refused held
      have stopped := refused resolve
      exact Action.ends_error stopped (stopped_here (.unread fresh held asks stopped))
  | some repository =>
      have loads : generator.Steps (start.links generator.input) roots moment
          ⟨moment.run.enlist generator.input name repository,
            moment.active ++ [⟨name, repository, [], none⟩], moment.done⟩ :=
        .single (.load fresh held asks)
      have registered := Run.enlist_registered moment.run generator.input name repository
      -- The name is registered before anything is resolved inside, so that one less is missing.
      have fewer := missing_lt_of_register (enclosed.listed name inScope) fresh loads.grown
        (by simp [registered])
      have made := rest_steps enclosed resolves deep (by rfl) (List.nil_append _).symm
        (enclosed.sound sound loads) (Nat.le_of_lt_succ (fewer.trans_le few))
      have same := Loader.load_of_document (generator.loader depth) resolve held
      refine Action.Ends.of_same (Action.Ends.bind (made.mono (fun _ after complete => ?_)
        fun stop after stopped => ?_)) same
      · obtain ⟨later, steps⟩ := complete
        have finished := (loads.trans steps).tail (.finish rfl rfl)
        exact Action.ends_ok rfl ⟨⟨_, finished⟩, steps.grown name _ registered⟩
      · exact Stopped.after_steps loads stopped

/-- Resolving takes steps at every depth that is not less than the number of missing names: loading
a repository registers its name before anything is resolved inside. -/
theorem resolve_steps (enclosed : generator.Enclosed start roots scope names)
    (deep : names.length < depth) (bound : Nat) :
    generator.Resolves start roots scope names bound
      ((generator.loader depth).resolveWithin bound) := by
  induction bound with
  | zero =>
      intro moment name sound inScope asks few
      cases known : moment.run.registered? name with
      | some loaded => exact known_steps known
      | none =>
          -- Without depth left no name is missing, so that the stop for want of it is out of reach.
          have member : name ∈ moment.run.missing names :=
            List.mem_filter.mpr ⟨enclosed.listed name inScope, by simp [known]⟩
          have positive := List.length_pos_of_mem member
          omega
  | succ bound ih =>
      intro moment name sound inScope asks few
      cases known : moment.run.registered? name with
      | some loaded => exact known_steps known
      | none =>
          exact (load_steps enclosed ih deep sound inScope asks known few).of_same
            (Loader.unknown_apply known)

end Resolve

section Mono

variable {larger : Links} {others : List String}
  (more : ∀ source includes, links source = some includes → larger source = some includes)
  (wider : roots ⊆ others)

include more wider

theorem Raised.mono {stop : Stop} (raises : generator.Raised links roots moment stop after) :
    generator.Raised larger others moment stop after := by
  cases raises with
  | cycle opened course known => exact .cycle opened (course.mono more) known
  | unread fresh missing asks refused => exact .unread fresh missing (asks.mono more wider) refused
  | blocked idle next refused => exact .blocked idle next refused

theorem Stopped.mono {outer : List Frame} {stop : Stop}
    (stopped : generator.Stopped links roots moment outer stop after) :
    generator.Stopped larger others moment outer stop after := by
  obtain ⟨run, deeper, done, raised, steps, raises, same⟩ := stopped
  exact ⟨run, deeper, done, raised, steps.mono more wider, raises.mono more wider, same⟩

end Mono

section Roots

variable {root : String} {done : List Frame}

theorem enclosed_below (generator : Generator) (run : Generation) (root : String) :
    generator.Enclosed run [root] (generator.Below run root) (root :: run.pool) := by
  constructor
  · intro name member
    rw [List.mem_singleton.mp member]
  · exact fun _ _ below edge => below.tail edge
  · intro name below
    cases below with
    | refl => exact List.mem_cons_self
    | tail _ edge => exact List.mem_cons_of_mem _ (Run.mem_pool_of_edge edge)

theorem root_steps (generator : Generator) (run : Generation) (root : String)
    (done : List Frame) :
    (generator.generateRoot root).Ends run
      (fun _ after =>
        (∃ later, generator.Steps (run.links generator.input) [root] ⟨run, [], done⟩
          ⟨after, [], later⟩) ∧ (after.registered? root).isSome)
      (generator.Stopped (run.links generator.input) [root] ⟨run, [], done⟩ []) := by
  have few : (run.missing (root :: run.pool)).length ≤ run.depth := by
    rw [Run.depth_eq]
    exact (List.length_filter_le _ _).trans (by simp)
  have deep : (root :: run.pool).length < run.depth := by
    rw [Run.depth_eq]
    simp
  have sound : Moment.Sound generator run (generator.Below run root) ⟨run, [], done⟩ :=
    ⟨underway_refl generator run _, by simp⟩
  have resolved := resolve_steps (enclosed_below generator run root) deep run.depth
    ⟨run, [], done⟩ root sound .refl (by simp [Asks]) few
  have unfolded : generator.generateRoot root run =
      ((generator.loader run.depth).resolveWithin run.depth root >>= fun _ => pure ()) run := by
    simp only [generateRoot, Loader.resolve, Action.bind_apply, Action.get_apply]
  refine Action.Ends.of_same (Action.Ends.bind (resolved.mono (fun loaded after given => ?_)
    fun _ _ stopped => stopped)) unfolded
  exact Action.ends_ok rfl ⟨given.1, by simp [given.2]⟩

theorem Underway.links_le (under : generator.Underway start scope run) (source : String)
    (includes : List Include) (found : run.links generator.input source = some includes) :
    start.links generator.input source = some includes := by
  obtain ⟨repository, held, rfl⟩ := Option.map_eq_some_iff.mp found
  have same : start.repository? generator.input source = some repository := by
    cases known : run.registered? source with
    | some loaded =>
        rw [Run.repository_of_registered known] at held
        cases held
        exact under.drawn source loaded known
    | none =>
        rw [Run.repository_of_document known] at held
        exact under.document known held
  simp [Run.links, same]

theorem roots_steps {rest : List String} (asked : rest ⊆ roots)
    (under : generator.Underway start (fun _ => True) run) :
    (rest.forM generator.generateRoot).Ends run
      (fun _ after => ∃ later,
        generator.Steps (start.links generator.input) roots ⟨run, [], done⟩ ⟨after, [], later⟩ ∧
          ∀ root ∈ rest, (after.registered? root).isSome)
      (generator.Stopped (start.links generator.input) roots ⟨run, [], done⟩ []) := by
  induction rest generalizing run done with
  | nil => exact Action.ends_forM_nil ⟨done, .refl, by simp⟩
  | cons root rest ih =>
      have wider : [root] ⊆ roots := by simpa using asked (by simp)
      refine Action.Ends.forM_cons ((root_steps generator run root done).mono
        (fun _ middle made => ?_) fun stop after stopped => ?_)
      · obtain ⟨⟨later, made⟩, registered⟩ := made
        have steps := Steps.mono under.links_le wider made
        have sound : Moment.Sound generator start (fun _ => True) ⟨middle, [], later⟩ :=
          steps.sound (fun _ _ => trivial) (fun _ _ _ _ => trivial) ⟨under, by simp⟩
        have others := @ih middle later (fun other member => asked (by simp [member])) sound.under
        refine others.mono (fun _ after complete => ?_) fun stop after stopped => ?_
        · obtain ⟨last, more, known⟩ := complete
          refine ⟨last, steps.trans more, fun other member => ?_⟩
          rcases List.mem_cons.mp member with rfl | member
          · obtain ⟨loaded, found⟩ := Option.isSome_iff_exists.mp registered
            rw [more.grown other loaded found]
            rfl
          · exact known other member
        · exact Stopped.after_steps steps stopped
      · exact stopped.mono under.links_le wider

/-- A generation takes steps until nothing is being worked on, or to a moment at which something is
raised. -/
theorem generate_steps (generator : Generator) (start : Generation) (roots : List String) :
    (generator.generate roots).Ends start
      (fun paths after => paths = after.extra ∧ ∃ done,
        generator.Steps (start.links generator.input) roots ⟨start, [], []⟩ ⟨after, [], done⟩ ∧
          ∀ root ∈ roots, (after.registered? root).isSome)
      (generator.Stopped (start.links generator.input) roots ⟨start, [], []⟩ []) := by
  have all := @roots_steps generator start start roots [] roots (List.Subset.refl roots)
    (underway_refl generator start _)
  refine Action.Ends.bind (all.mono (fun _ after made => ?_) fun _ _ stopped => stopped)
  exact Action.Ends.bind (Action.ends_ok rfl (Action.ends_ok rfl ⟨rfl, made⟩))

end Roots

section Deep

variable {stop : Stop}

theorem annotate_eq_deep_iff {frame : Frame} :
    frame.annotate stop = .tooDeep ↔ stop = .tooDeep := by
  unfold Frame.annotate
  cases frame.opened with
  | none => exact Iff.rfl
  | some space => cases stop <;> simp [Stop.annotate]

theorem pass_up_eq_deep_iff {frames : List Frame} :
    passUp frames stop = .tooDeep ↔ stop = .tooDeep := by
  induction frames with
  | nil => exact Iff.rfl
  | cons frame rest ih => exact annotate_eq_deep_iff.trans ih

theorem Raised.not_deep (raises : generator.Raised links roots moment stop after) :
    stop ≠ .tooDeep := by
  cases raises with
  | cycle => simp [Stop.because]
  | @unread _ _ _ _ _ _ depth _ _ missing _ stopped =>
      obtain ⟨_, refused, _⟩ := Loader.refused_of_load (generator.loader depth) missing stopped
      exact refused.not_deep
  | blocked _ _ refused =>
      rw [Ne, annotate_eq_deep_iff]
      obtain ⟨reason, rfl, _⟩ := create_error refused
      simp [Stop.because]

theorem generate_not_deep {roots : List String} :
    generator.generate roots start ≠ .error .tooDeep after := by
  intro stopped
  obtain ⟨_, _, _, _, _, raises, same⟩ := (generate_steps generator start roots).of_error stopped
  exact raises.not_deep (pass_up_eq_deep_iff.mp same.symm)

end Deep

end Generator

end ZigBindings
