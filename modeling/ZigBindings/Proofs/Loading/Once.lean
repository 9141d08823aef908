import Mathlib.Data.List.Infix
import Mathlib.Data.List.Nodup
import ZigBindings.Proofs.Generation.Supply
import ZigBindings.Proofs.Loading.Hooks

/-!
# Repositories are loaded once

However a hook resolves further names, gives up or goes on: the registry only grows, and what is in
it was read once, registered, and handed to the hook. Resolving always comes to an end, since each
nested loading registers a source that was missing.
-/

namespace ZigBindings

/-- A run in which each repository that is registered was read once, then registered and then handed
to the hook, and in which nothing else has been read. The moments at which the hook was started are
told by the registries of those moments: each is a longer beginning of the registry, ending with the
repository that the hook was started on. -/
structure LoadedOnce {τ : Type} (directory : Path) (documents : Files) (run : Run (Watch τ)) :
    Prop where
  files : run.files = documents
  distinct : run.names.Nodup
  serials : run.registry.map (·.2.serial) = List.range run.readings
  held : ∀ entry ∈ run.registry, documents.document? directory entry.1 = some entry.2.repository
  started : run.extra.started.map Prod.fst = run.registry.map (·.2.repository)
  moments : [] :: run.extra.started.map Prod.snd = run.registry.inits
  announced : ∃ attempts : List String,
    run.announced = attempts.map (fun name => .parsing (directory.below name).text) ∧
    (attempts.filter fun name => (documents.document? directory name).isSome) = run.names

section Steps

variable {τ : Type} {directory : Path} {documents : Files} {run later : Run (Watch τ)}

theorem fresh_loaded_once (directory : Path) (documents : Files) (own : τ) :
    LoadedOnce directory documents (Hook.fresh documents own) :=
  ⟨rfl, List.nodup_nil, rfl, by simp [Hook.fresh], rfl, rfl, [], rfl, rfl⟩

theorem LoadedOnce.quiet (once : LoadedOnce directory documents run) (files : later.files = run.files)
    (quiet : run.Quiet later) (started : later.extra.started = run.extra.started) :
    LoadedOnce directory documents later := by
  obtain ⟨registry, readings, announced⟩ := quiet
  have names : later.names = run.names := congrArg (List.map Prod.fst) registry
  constructor
  · rw [files, once.files]
  · rw [names]
    exact once.distinct
  · rw [registry, readings]
    exact once.serials
  · rw [registry]
    exact once.held
  · rw [started, registry]
    exact once.started
  · rw [started, registry]
    exact once.moments
  · rw [announced, names]
    exact once.announced

theorem LoadedOnce.refuse (once : LoadedOnce directory documents run) {name : String}
    (missing : run.files.document? directory name = none) :
    LoadedOnce directory documents (run.note [.parsing (directory.below name).text]) := by
  obtain ⟨attempts, announced, accepted⟩ := once.announced
  rw [once.files] at missing
  refine ⟨once.files, once.distinct, once.serials, once.held, once.started, once.moments,
    attempts ++ [name], ?_, ?_⟩
  · rw [Run.announced_concat rfl, announced, List.map_append]
    rfl
  · have none : ([name].filter fun name => (documents.document? directory name).isSome) = [] := by
      simp [missing]
    rw [List.filter_append, accepted, none, List.append_nil]
    rfl

theorem LoadedOnce.load (once : LoadedOnce directory documents run) {name : String}
    {repository : Repository} (fresh : run.registered? name = none)
    (held : run.files.document? directory name = some repository) :
    LoadedOnce directory documents (run.load directory name repository) := by
  obtain ⟨attempts, announced, accepted⟩ := once.announced
  rw [once.files] at held
  unfold Run.load
  rw [Run.enlist_of_fresh _ _ fresh]
  constructor
  · exact once.files
  · change ((run.registry ++ [_]).map Prod.fst).Nodup
    rw [List.map_append]
    exact List.nodup_append.mpr ⟨once.distinct, by simp, by
      rintro other member _ last rfl
      have same : other = name := List.mem_singleton.mp last
      exact Run.not_registered_iff.mp fresh (same ▸ member)⟩
  · change (run.registry ++ [_]).map _ = List.range (run.readings + 1)
    rw [List.map_append, once.serials, List.range_succ]
    rfl
  · intro entry member
    rcases List.mem_append.mp member with old | new
    · exact once.held entry old
    · rw [List.mem_singleton.mp new]
      exact held
  · change (run.extra.started ++ [_]).map Prod.fst = (run.registry ++ [_]).map _
    rw [List.map_append, List.map_append, once.started]
    rfl
  · change [] :: (run.extra.started ++ [_]).map Prod.snd = (run.registry ++ [_]).inits
    rw [List.map_append, ← List.cons_append, once.moments, List.inits_append]
    rfl
  · refine ⟨attempts ++ [name], ?_, ?_⟩
    · rw [Run.announced_concat rfl, announced, List.map_append]
      rfl
    · have taken : ([name].filter fun name => (documents.document? directory name).isSome) =
          [name] := by
        simp [held]
      change _ = (run.registry ++ [_]).map Prod.fst
      rw [List.filter_append, accepted, taken, List.map_append]
      rfl

theorem LoadStep.loaded_once (step : LoadStep directory run later)
    (once : LoadedOnce directory documents run) : LoadedOnce directory documents later := by
  cases step with
  | reuse _ => exact once.quiet rfl (Run.quiet_note (by simp [LogRecord.cached])) rfl
  | refuse missing noted =>
      rcases noted with rfl | rfl
      · exact once.quiet rfl (Run.quiet_note (by simp)) rfl
      · exact once.refuse missing
  | load fresh held => exact once.load fresh held
  | keep change => exact once.quiet rfl ⟨rfl, rfl, rfl⟩ rfl

theorem LoadSteps.loaded_once (steps : LoadSteps directory run later)
    (once : LoadedOnce directory documents run) : LoadedOnce directory documents later := by
  induction steps with
  | refl => exact once
  | tail _ step ih => exact step.loaded_once ih

theorem LoadStep.extends (step : LoadStep directory run later) :
    later.files = run.files ∧ run.registry <+: later.registry := by
  cases step with
  | reuse _ => exact ⟨rfl, List.prefix_refl _⟩
  | refuse _ _ => exact ⟨rfl, List.prefix_refl _⟩
  | load fresh _ =>
      unfold Run.load
      rw [Run.enlist_of_fresh _ _ fresh]
      exact ⟨rfl, List.prefix_append _ _⟩
  | keep _ => exact ⟨rfl, List.prefix_refl _⟩

theorem LoadSteps.extends (steps : LoadSteps directory run later) :
    later.files = run.files ∧ run.registry <+: later.registry := by
  induction steps with
  | refl => exact ⟨rfl, List.prefix_refl _⟩
  | tail _ step ih => exact ⟨step.extends.1.trans ih.1, ih.2.trans step.extends.2⟩

theorem LoadSteps.grown (steps : LoadSteps directory run later) : run.Grown later := by
  obtain ⟨more, grown⟩ := steps.extends.2
  intro name loaded known
  unfold Run.registered? at known ⊢
  rw [← grown, List.lookup_append, known]
  rfl

end Steps

section Depth

variable {τ : Type}

/-- The resolving of names with something else in place of all loading that is nested deeper than a
given depth. -/
def Loader.resolveOver (loader : Loader τ) (bottom : Resolve τ) : Nat → Resolve τ
  | 0 => knownOr bottom
  | depth + 1 => knownOr (loader.loadWith (loader.resolveOver bottom depth))

variable {directory : Path} {hook : Hook τ}

theorem perform_agree {first second : Resolve (Watch τ)} {sources : List String}
    {inside : Run (Watch τ) → Prop}
    (known : ∀ name run, (run.registered? name).isSome → first name run = second name run)
    (agree : ∀ source ∈ sources, ∀ run, inside run → first source run = second source run)
    (onward : ∀ name run, inside run → inside ((first name).left run))
    (kept : ∀ change run, inside run → inside (run.keep change))
    {script : Script τ} (confined : script.Confined sources) {run : Run (Watch τ)}
    (start : inside run) : script.perform first run = script.perform second run := by
  induction script generalizing run with
  | done => rfl
  | raise stop => rfl
  | resolve source next ih =>
      -- The script goes on by the outcome alone, and the run that is left is inside again.
      obtain ⟨outcome, left⟩ := Action.outcome_and_left (agree source confined.1 run start)
      rw [perform_resolve, perform_resolve, ← outcome, ← left]
      exact ih _ (confined.2 _) (onward source run start)
  | revisit name next ih =>
      cases registered : run.registered? name with
      | none =>
          rw [perform_revisit_unknown next registered, perform_revisit_unknown next registered]
          exact ih none (confined none) start
      | some loaded =>
          obtain ⟨outcome, left⟩ := Action.outcome_and_left (known name run (by simp [registered]))
          rw [perform_revisit_known next registered, perform_revisit_known next registered,
            ← outcome, ← left]
          exact ih _ (confined _) (onward name run start)
  | observe next ih =>
      rw [perform_observe, perform_observe]
      exact ih run (confined run) start
  | keep change next ih =>
      rw [perform_keep, perform_keep]
      exact ih confined (kept change run start)

/-- A run that has come from another one, with at most so many of the sources missing that were
referred to there. -/
structure Short (directory : Path) (start : Run (Watch τ)) (bound : Nat) (run : Run (Watch τ)) :
    Prop where
  steps : LoadSteps directory start run
  few : (run.missing start.pool).length ≤ bound

variable {start run : Run (Watch τ)} {bound : Nat}

theorem Short.onward (short : Short directory start bound run) {later : Run (Watch τ)}
    (steps : LoadSteps directory run later) : Short directory start bound later :=
  ⟨short.steps.trans steps, (missing_le_of_grown steps.grown _).trans short.few⟩

theorem Short.listed (short : Short directory start bound run) {name : String}
    {repository : Repository} (fresh : run.registered? name = none)
    (held : run.files.document? directory name = some repository) :
    repository.sources ⊆ start.pool := by
  intro source member
  rw [short.steps.extends.1, ← Run.repository_of_document (short.steps.grown.fresh fresh)] at held
  exact Run.mem_pool_of_edge (Run.edge_iff.mpr ⟨repository, held, member⟩)

theorem resolve_over_known (bottom : Resolve (Watch τ)) (depth : Nat) {name : String}
    {loaded : Loaded} (known : run.registered? name = some loaded) :
    (hook.loader directory).resolveOver bottom depth name run =
      .ok loaded (run.note [.cached name]) := by
  cases depth <;> exact Loader.known_apply known

theorem resolve_within_known (depth : Nat) {name : String} {loaded : Loaded}
    (known : run.registered? name = some loaded) :
    (hook.loader directory).resolveWithin depth name run =
      .ok loaded (run.note [.cached name]) := by
  cases depth <;> exact Loader.known_apply known

theorem load_agree {bottom : Resolve (Watch τ)} {depth inner : Nat} {name : String}
    (below : ∀ source ∈ start.pool, ∀ run, Short directory start inner run →
      (hook.loader directory).resolveWithin depth source run =
        (hook.loader directory).resolveOver bottom depth source run)
    (short : Short directory start bound run)
    (fewer : run.registered? name = none → ∀ repository,
      run.files.document? directory name = some repository →
      ((run.load directory name repository).missing start.pool).length ≤ inner) :
    (hook.loader directory).resolveWithin (depth + 1) name run =
      (hook.loader directory).resolveOver bottom (depth + 1) name run := by
  cases known : run.registered? name with
  | some loaded =>
      rw [resolve_within_known _ known, resolve_over_known _ _ known]
  | none =>
      rw [Loader.resolveWithin, Loader.resolveOver, Loader.unknown_apply known,
        Loader.unknown_apply known]
      cases held : run.files.document? directory name with
      | none =>
          obtain ⟨stop, records, _, refused⟩ := (hook.loader directory).load_refused held
          rw [refused, refused]
      | some repository =>
          rw [load_apply hook name held, load_apply hook name held, Action.bind_apply,
            Action.bind_apply]
          -- Inside, one name less is missing than before.
          have loaded : Short directory start inner (run.load directory name repository) :=
            ⟨short.steps.tail (.load known held), fewer known repository held⟩
          have confined := hook.confined repository
          rw [perform_agree (fun name run registered => ?_)
            (fun source member => below source (short.listed known held member))
            (fun name run inside => inside.onward (resolve_within_steps hook depth name run))
            (fun change run inside => inside.onward (.single (.keep change))) confined loaded]
          obtain ⟨old, registered⟩ := Option.isSome_iff_exists.mp registered
          rw [resolve_within_known _ registered, resolve_over_known _ _ registered]

/-- The sources that are referred to are resolved alike to any depth that is not below the number of
those that are missing: each loading on the way down is of one of them. -/
theorem source_agree (bottom : Resolve (Watch τ)) (depth : Nat) {source : String}
    (listed : source ∈ start.pool) (short : Short directory start depth run) :
    (hook.loader directory).resolveWithin depth source run =
      (hook.loader directory).resolveOver bottom depth source run := by
  induction depth generalizing source run with
  | zero =>
      cases known : run.registered? source with
      | some loaded => rw [resolve_within_known _ known, resolve_over_known _ _ known]
      | none =>
          have missing : source ∈ run.missing start.pool :=
            List.mem_filter.mpr ⟨listed, by simp [known]⟩
          rw [List.length_eq_zero_iff.mp (Nat.le_zero.mp short.few)] at missing
          cases missing
  | succ depth ih =>
      refine load_agree (fun other member run inside => ih member inside) short ?_
      intro fresh repository held
      have step : LoadSteps directory run (run.load directory source repository) :=
        .single (.load fresh held)
      have registered : ((run.load directory source repository).registered? source).isSome := by
        have enlisted := Run.enlist_registered run directory source repository
        exact Option.isSome_iff_exists.mpr ⟨_, enlisted⟩
      have fewer := missing_lt_of_register listed fresh step.grown registered
      have few := short.few
      omega

/-- Nothing is ever loaded so deep inside that the depth of a run would be reached. -/
theorem depth_suffices (hook : Hook τ) (directory : Path) (bottom : Resolve (Watch τ))
    (name : String) (run : Run (Watch τ)) :
    (hook.loader directory).resolve name run =
      (hook.loader directory).resolveOver bottom run.depth name run := by
  have all (other : Run (Watch τ)) : (other.missing run.pool).length ≤ run.pool.length + 1 :=
    (List.length_filter_le _ _).trans (Nat.le_succ _)
  have short : Short directory run (run.pool.length + 1) run := ⟨.refl, all run⟩
  have enough : (hook.loader directory).resolveWithin (run.pool.length + 1 + 1) name run =
      (hook.loader directory).resolveOver bottom (run.pool.length + 1 + 1) name run := by
    exact load_agree (fun _ member _ inside => source_agree bottom _ member inside) short
      fun _ _ _ => all _
  rw [Loader.resolve_apply, Run.depth_eq]
  exact enough

end Depth

section Once

variable {τ : Type} {directory : Path} {documents : Files} {run : Run (Watch τ)} (hook : Hook τ)

theorem registered_of_load {resolve : Resolve (Watch τ)} {name : String} {loaded : Loaded}
    {after : Run (Watch τ)}
    (steps : ∀ name run, LoadSteps directory run ((resolve name).left run))
    (result : (hook.loader directory).loadWith resolve name run = .ok loaded after) :
    after.registered? name = some loaded := by
  cases held : run.files.document? directory name with
  | none =>
      obtain ⟨stop, records, _, refused⟩ := (hook.loader directory).load_refused held
      rw [refused] at result
      cases result
  | some repository =>
      rw [load_apply hook name held, Action.bind_apply] at result
      have inside := perform_steps (hook.script repository) steps
        (run.load directory name repository)
      cases performed : (hook.script repository).perform resolve
          (run.load directory name repository) with
      | error stop last =>
          rw [performed] at result
          cases result
      | ok _ last =>
          rw [performed] at result
          rw [Action.left_of_ok performed] at inside
          cases result
          exact inside.grown name _ (Run.enlist_registered run directory name repository)

theorem registered_of_resolve {depth : Nat} {name : String} {loaded : Loaded}
    {after : Run (Watch τ)}
    (result : (hook.loader directory).resolveWithin depth name run = .ok loaded after) :
    after.registered? name = some loaded := by
  cases known : run.registered? name with
  | some old =>
      rw [resolve_within_known _ known] at result
      cases result
      exact known
  | none =>
      cases depth with
      | zero =>
          rw [Loader.resolveWithin, Loader.unknown_apply known] at result
          cases result
      | succ depth =>
          rw [Loader.resolveWithin, Loader.unknown_apply known] at result
          exact registered_of_load hook (resolve_within_steps hook depth) result

theorem LoadedOnce.resolve_none (once : LoadedOnce directory documents run) {name : String}
    (missing : documents.document? directory name = none) :
    ∃ stop after, (hook.loader directory).resolve name run = .error stop after ∧
      after.registry = run.registry := by
  have unknown : run.registered? name = none := by
    cases known : run.registered? name with
    | none => rfl
    | some loaded =>
        obtain ⟨before, behind, split, _⟩ := List.lookup_eq_some_iff.mp known
        have held := once.held (name, loaded) (by simp [split])
        rw [missing] at held
        cases held
  rw [← once.files] at missing
  obtain ⟨stop, records, _, refused⟩ := (hook.loader directory).load_refused missing
  refine ⟨stop, run.note records, ?_, rfl⟩
  rw [Loader.resolve_apply, Run.depth_eq, Loader.resolveWithin, Loader.unknown_apply unknown]
  exact refused _

/-- A loader that starts with nothing registered and is asked for one name after the other, with a
hook that resolves sources of the repositories it is run for and gives up or goes on as it likes.
Nothing is loaded deeper than it may be. Each name is read successfully at most once, registered and
then handed to the hook; what is announced are the documents that were tried, of which the accepted
ones are those registered. The registry only grows, so that a registered name is always resolved as
the same repository, and what is resolved is registered. A name without an acceptable document is
not registered. -/
theorem repositories_loaded_once (directory : Path) (documents : Files) (own : τ)
    (calls : List String) :
    ∃ run, hook.called directory documents own calls = run ∧
      LoadedOnce directory documents run ∧
      (∀ name bottom, (hook.loader directory).resolve name run =
        (hook.loader directory).resolveOver bottom run.depth name run) ∧
      (∀ later, run.registry <+: (hook.after directory later run).registry ∧
        ∀ name loaded, run.registered? name = some loaded →
          (hook.loader directory).resolve name (hook.after directory later run) =
            .ok loaded ((hook.after directory later run).note [.cached name])) ∧
      (∀ name loaded after, (hook.loader directory).resolve name run = .ok loaded after →
        after.registered? name = some loaded) ∧
      ∀ name, documents.document? directory name = none →
        ∃ stop after, (hook.loader directory).resolve name run = .error stop after ∧
          after.registry = run.registry := by
  have once : LoadedOnce directory documents (hook.called directory documents own calls) :=
    LoadSteps.loaded_once (after_steps hook calls _) (fresh_loaded_once directory documents own)
  refine ⟨_, rfl, once, fun name bottom => depth_suffices hook directory bottom name _,
    fun later => ?_, fun name loaded after result => ?_,
    fun name missing => once.resolve_none hook missing⟩
  · have steps := @after_steps _ directory hook later (hook.called directory documents own calls)
    refine ⟨steps.extends.2, fun name loaded known => ?_⟩
    rw [Loader.resolve_apply]
    exact resolve_within_known _ (steps.grown name loaded known)
  · rw [Loader.resolve_apply] at result
    exact registered_of_resolve hook result

end Once

/-- Resolves some sources one after the other, whatever comes of it, and gives up after the last. -/
def Script.resolveEach {τ : Type} (stop : Stop) : List String → Script τ
  | [] => .raise stop
  | source :: rest => .resolve source fun _ => resolveEach stop rest

theorem resolve_each_confined {τ : Type} (stop : Stop) {sources all : List String}
    (inside : sources ⊆ all) : (Script.resolveEach stop sources : Script τ).Confined all := by
  induction sources with
  | nil => trivial
  | cons source rest ih =>
      exact ⟨inside List.mem_cons_self,
        fun _ => ih fun _ member => inside (List.mem_cons_of_mem _ member)⟩

/-- A hook that fails every time, but not before it has asked for everything. -/
def failingHook : Hook Unit where
  script repository :=
    .resolveEach (.because (.reported .files "given up" [])) repository.sources
  confined _ := resolve_each_confined _ (List.Subset.refl _)

/-- A repository that includes itself and one that is missing. -/
def loopedFiles : Files :=
  (Generator.shelf [("A", ["A", "C"])]).files

theorem repositories_loaded_once_looped :
    ∃ run, failingHook.called ⟨"", ["in"]⟩ loopedFiles () ["A-1.gir"] = run ∧
      run.names = ["A-1.gir"] ∧ LoadedOnce ⟨"", ["in"]⟩ loopedFiles run := by
  obtain ⟨run, same, once, _⟩ :=
    repositories_loaded_once failingHook ⟨"", ["in"]⟩ loopedFiles () ["A-1.gir"]
  have names : (failingHook.called ⟨"", ["in"]⟩ loopedFiles () ["A-1.gir"]).names = ["A-1.gir"] := by
    decide +kernel
  rw [same] at names
  exact ⟨run, same, names, once⟩

end ZigBindings
