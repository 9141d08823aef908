import ZigBindings.Files.Tree
import ZigBindings.Log
import ZigBindings.Repository.Reader

/-!
# Runs

The state that loading and generating work on: the files, the repositories that have been
registered, in the order of their registration, and the log. A repository that has been read has a
serial number, by which two readings of the same document are told apart.
-/

namespace ZigBindings

open ZigBindings.Markup

structure Loaded where
  serial : Nat
  repository : Repository
  deriving DecidableEq

/-- The state of a run. What else is kept along the way is up to its user. -/
structure Run (τ : Type) where
  files : Files := {}
  registry : List (String × Loaded) := []
  readings : Nat := 0
  log : List LogRecord := []
  extra : τ

namespace Run

variable {τ : Type}

def note (records : List LogRecord) (run : Run τ) : Run τ :=
  { run with log := run.log ++ records }

/-- Registers a repository; under a name that is taken it replaces the old one in its place. -/
def register (name : String) (loaded : Loaded) (run : Run τ) : Run τ :=
  if (run.registry.lookup name).isSome then
    { run with
      registry := run.registry.map fun old => if old.1 = name then (name, loaded) else old }
  else { run with registry := run.registry ++ [(name, loaded)] }

def registered? (run : Run τ) (name : String) : Option Loaded :=
  run.registry.lookup name

def sourceOf? (node : Node) : Option String :=
  match Reader.includeEntry "" node with
  | .ok entry => some entry.source
  | .error _ => none

/-- The sources that the document at a location refers to, if it is one, whatever else it says. -/
def sourcesOf (entry : FileEntry) : List String :=
  match entry with
  | .directory => []
  | .file content =>
    match (Source.bytes content).read with
    | .tree root => (root.childrenTagged (core "include")).filterMap sourceOf?
    | _ => []

/-- A depth that nested loading and walking cannot exceed: every level but the outermost takes up a
source that no outer level has, and it is named by a document or by a registered repository. -/
def depth (run : Run τ) : Nat :=
  (run.files.entries.flatMap fun entry => sourcesOf entry.2).length +
    (run.registry.flatMap fun entry => entry.2.repository.sources).length + 2

def readRepository (path : Path) : Action (Run τ) Loaded := do
  let run ← get
  match run.files.read path with
  | .error problem => throw (.because (.unreadable path.text problem.reason))
  | .ok content =>
    let repository ← Action.ofExcept (Repository.read path.text (.bytes content))
    set { run with readings := run.readings + 1 }
    return ⟨run.readings, repository⟩

end Run

end ZigBindings
