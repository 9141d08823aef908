import Mathlib.Logic.Relation
import ZigBindings.Proofs.Generation.Registry

/-!
# Hooks that resolve

A hook may resolve further names with the very loader that runs it, and so be run again before it
has come to its end. What a hook does is told here as a script, step after step, so that something
can be said of every hook at once. Whatever hooks there are, what is done to a run is one of four
things, one after the other.
-/

namespace ZigBindings

namespace Action

variable {σ α : Type}

def left (action : Action σ α) (state : σ) : σ :=
  match action state with
  | .ok _ after => after
  | .error _ after => after

def outcome (action : Action σ α) (state : σ) : Except Stop α :=
  match action state with
  | .ok value _ => .ok value
  | .error stop _ => .error stop

/-- Goes on after an action that stops, with what it was stopped by. -/
def attempt (action : Action σ α) : Action σ (Except Stop α) := fun state =>
  .ok (action.outcome state) (action.left state)

@[simp]
theorem attempt_apply (action : Action σ α) (state : σ) :
    action.attempt state = .ok (action.outcome state) (action.left state) :=
  rfl

theorem left_of_ok {action : Action σ α} {state after : σ} {value : α}
    (result : action state = .ok value after) : action.left state = after := by
  rw [left, result]

theorem outcome_and_left {action other : Action σ α} {state : σ} (same : action state = other state) :
    action.outcome state = other.outcome state ∧ action.left state = other.left state := by
  unfold outcome left
  rw [same]
  exact ⟨rfl, rfl⟩

theorem left_then_return {work : Action σ Unit} (value : α) (state : σ) :
    (do
      work
      return value : Action σ α).left state = work.left state := by
  unfold left
  rw [bind_apply]
  cases work state <;> rfl

end Action

/-- What is kept of a hook along a run: a state of its own, and for each time that it was started
the repository and the registry at that moment. -/
structure Watch (τ : Type) where
  own : τ
  started : List (Repository × List (String × Loaded)) := []

/-- What a hook does: it raises something, resolves a source and learns what comes of it, resolves a
name if it is registered, looks at the run, and changes the state of its own. -/
inductive Script (τ : Type) where
  | done
  | raise (stop : Stop)
  | resolve (source : String) (next : Except Stop Loaded → Script τ)
  | revisit (name : String) (next : Option Loaded → Script τ)
  | observe (next : Run (Watch τ) → Script τ)
  | keep (change : τ → τ) (next : Script τ)

section Run

variable {τ : Type}

def Run.begin_ (run : Run (Watch τ)) (repository : Repository) : Run (Watch τ) :=
  { run with
    extra := { run.extra with started := run.extra.started ++ [(repository, run.registry)] } }

def Run.keep (run : Run (Watch τ)) (change : τ → τ) : Run (Watch τ) :=
  { run with extra := { run.extra with own := change run.extra.own } }

def Run.load (run : Run (Watch τ)) (directory : Path) (name : String) (repository : Repository) :
    Run (Watch τ) :=
  (run.enlist directory name repository).begin_ repository

end Run

namespace Script

variable {τ : Type}

def perform (resolver : Resolve (Watch τ)) : Script τ → Action (Run (Watch τ)) Unit
  | .done => pure ()
  | .raise stop => throw stop
  | .resolve source next => do
    let answer ← Action.attempt (resolver source)
    (next answer).perform resolver
  | .revisit name next => do
    match (← get).registered? name with
    | none => (next none).perform resolver
    | some _ =>
      let answer ← Action.attempt (resolver name)
      (next answer.toOption).perform resolver
  | .observe next => do
    (next (← get)).perform resolver
  | .keep change next => do
    modify fun run => run.keep change
    next.perform resolver

/-- Whether a script resolves only some sources, whatever it meets. Names that are registered it may
resolve all the same. -/
def Confined (sources : List String) : Script τ → Prop
  | .done => True
  | .raise _ => True
  | .resolve source next => source ∈ sources ∧ ∀ answer, (next answer).Confined sources
  | .revisit _ next => ∀ found, (next found).Confined sources
  | .observe next => ∀ run, (next run).Confined sources
  | .keep _ next => next.Confined sources

end Script

/-- A hook of a loader: what it does with a repository, of which it resolves only the sources. -/
structure Hook (τ : Type) where
  script : Repository → Script τ
  confined : ∀ repository, (script repository).Confined repository.sources

namespace Hook

variable {τ : Type}

def loader (hook : Hook τ) (directory : Path) : Loader (Watch τ) where
  directory
  onLoad resolver repository := do
    modify fun run => run.begin_ repository
    (hook.script repository).perform resolver

def after (hook : Hook τ) (directory : Path) (names : List String) (run : Run (Watch τ)) :
    Run (Watch τ) :=
  names.foldl (fun run name => ((hook.loader directory).resolve name).left run) run

def fresh (files : Files) (own : τ) : Run (Watch τ) where
  files
  extra := { own }

def called (hook : Hook τ) (directory : Path) (files : Files) (own : τ) (names : List String) :
    Run (Watch τ) :=
  hook.after directory names (fresh files own)

end Hook

/-- One thing that is done to a run: a registered name is given again, a document is refused, a
document is registered and the hook started on it, or the hook changes the state of its own. -/
inductive LoadStep {τ : Type} (directory : Path) : Run (Watch τ) → Run (Watch τ) → Prop
  | reuse {run : Run (Watch τ)} {name : String} (known : (run.registered? name).isSome) :
      LoadStep directory run (run.note [.cached name])
  | refuse {run : Run (Watch τ)} {name : String} {records : List LogRecord}
      (missing : run.files.document? directory name = none)
      (noted : records = [] ∨ records = [.parsing (directory.below name).text]) :
      LoadStep directory run (run.note records)
  | load {run : Run (Watch τ)} {name : String} {repository : Repository}
      (fresh : run.registered? name = none)
      (held : run.files.document? directory name = some repository) :
      LoadStep directory run (run.load directory name repository)
  | keep {run : Run (Watch τ)} (change : τ → τ) : LoadStep directory run (run.keep change)

abbrev LoadSteps {τ : Type} (directory : Path) : Run (Watch τ) → Run (Watch τ) → Prop :=
  Relation.ReflTransGen (LoadStep directory)

section Steps

variable {τ : Type} {directory : Path} {resolver : Resolve (Watch τ)}

theorem perform_resolve (source : String) (next : Except Stop Loaded → Script τ)
    (run : Run (Watch τ)) :
    (Script.resolve source next).perform resolver run =
      (next ((resolver source).outcome run)).perform resolver ((resolver source).left run) := by
  simp only [Script.perform, Action.bind_apply, Action.attempt_apply]

theorem perform_revisit_unknown {name : String} (next : Option Loaded → Script τ)
    {run : Run (Watch τ)} (unknown : run.registered? name = none) :
    (Script.revisit name next).perform resolver run = (next none).perform resolver run := by
  simp only [Script.perform, Action.bind_apply, Action.get_apply, unknown]

theorem perform_revisit_known {name : String} (next : Option Loaded → Script τ)
    {run : Run (Watch τ)} {loaded : Loaded} (known : run.registered? name = some loaded) :
    (Script.revisit name next).perform resolver run =
      (next ((resolver name).outcome run).toOption).perform resolver
        ((resolver name).left run) := by
  simp only [Script.perform, Action.bind_apply, Action.get_apply, known, Action.attempt_apply]

theorem perform_observe (next : Run (Watch τ) → Script τ) (run : Run (Watch τ)) :
    (Script.observe next).perform resolver run = (next run).perform resolver run := by
  simp only [Script.perform, Action.bind_apply, Action.get_apply]

theorem perform_keep (change : τ → τ) (next : Script τ) (run : Run (Watch τ)) :
    (Script.keep change next).perform resolver run =
      next.perform resolver (run.keep change) := by
  simp only [Script.perform, Action.bind_apply, Action.modify_apply]

theorem perform_steps (script : Script τ)
    (resolved : ∀ name run, LoadSteps directory run ((resolver name).left run))
    (run : Run (Watch τ)) : LoadSteps directory run ((script.perform resolver).left run) := by
  induction script generalizing run with
  | done => exact .refl
  | raise stop => exact .refl
  | resolve source next ih =>
      rw [Action.left, perform_resolve]
      exact (resolved source run).trans (ih _ _)
  | revisit name next ih =>
      cases known : run.registered? name with
      | none =>
          rw [Action.left, perform_revisit_unknown next known]
          exact ih none run
      | some loaded =>
          rw [Action.left, perform_revisit_known next known]
          exact (resolved name run).trans (ih _ _)
  | observe next ih =>
      rw [Action.left, perform_observe]
      exact ih run run
  | keep change next ih =>
      rw [Action.left, perform_keep]
      exact .head (.keep change) (ih _)

variable (hook : Hook τ)

theorem load_apply (name : String) {run : Run (Watch τ)} {repository : Repository}
    (held : run.files.document? directory name = some repository) :
    (hook.loader directory).loadWith resolver name run =
      (do
        (hook.script repository).perform resolver
        return ⟨run.readings, repository⟩ : Action (Run (Watch τ)) Loaded)
        (run.load directory name repository) := by
  rw [Loader.load_of_document (hook.loader directory) resolver held]
  simp only [Hook.loader, Action.bind_apply, Action.modify_apply, Run.load]

theorem resolve_within_steps (depth : Nat) (name : String) (run : Run (Watch τ)) :
    LoadSteps directory run (((hook.loader directory).resolveWithin depth name).left run) := by
  induction depth generalizing name run with
  | zero =>
      cases known : run.registered? name with
      | some loaded =>
          have result := @Loader.known_apply _ run name (fun _ => throw .tooDeep) loaded known
          rw [Loader.resolveWithin, Action.left_of_ok result]
          exact .single (.reuse (by simp [known]))
      | none =>
          have result := @Loader.unknown_apply _ run name (fun _ => throw .tooDeep) known
          rw [Loader.resolveWithin, Action.left, result]
          exact .refl
  | succ depth ih =>
      cases known : run.registered? name with
      | some loaded =>
          rw [Loader.resolveWithin, Action.left_of_ok (Loader.known_apply known)]
          exact .single (.reuse (by simp [known]))
      | none =>
          rw [Loader.resolveWithin, Action.left, Loader.unknown_apply known]
          cases held : run.files.document? directory name with
          | none =>
              obtain ⟨stop, records, reason, refused⟩ :=
                (hook.loader directory).load_refused held
              rw [refused]
              exact .single (.refuse held reason.noted)
          | some repository =>
              rw [load_apply hook name held]
              refine .head (.load known held) ?_
              have steps := perform_steps (hook.script repository) ih
                (run.load directory name repository)
              rw [← Action.left_then_return (⟨run.readings, repository⟩ : Loaded)] at steps
              exact steps

theorem resolve_steps (name : String) (run : Run (Watch τ)) :
    LoadSteps directory run (((hook.loader directory).resolve name).left run) := by
  rw [Action.left, Loader.resolve_apply]
  exact resolve_within_steps hook run.depth name run

theorem after_steps (names : List String) (run : Run (Watch τ)) :
    LoadSteps directory run (hook.after directory names run) := by
  induction names generalizing run with
  | nil => exact .refl
  | cons name rest ih => exact (resolve_steps hook name run).trans (ih _)

end Steps

end ZigBindings
