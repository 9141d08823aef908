import ZigBindings.Generation.Run

/-!
# Loading repositories

A repository is looked up by name. One that is registered is given as it is; any other is read from
the directory of the loader, registered, and handed to the hook of the loader, which may resolve
further names. The registration comes first, so that the hook meets its own repository as one that
is registered.
-/

namespace ZigBindings

abbrev Resolve (τ : Type) := String → Action (Run τ) Loaded

/-- Where repositories are read from, and what is done with a newly registered one. -/
structure Loader (τ : Type) where
  directory : Path
  onLoad : Resolve τ → Repository → Action (Run τ) Unit := fun _ _ => pure ()

namespace Loader

variable {τ : Type}

def path (loader : Loader τ) (name : String) : Path :=
  loader.directory.below name

def check (loader : Loader τ) (name : String) : Action (Run τ) Unit := do
  let path := loader.path name
  match (← get).files.isFile path with
  | .ok true => return
  | .ok false =>
    throw (.because (.unknownRepository name loader.directory.text path.text))
  | .error _ => throw (.nameTooLong path.text)

/-- Reads and registers the repository of a name and runs the hook, which resolves names by
`resolve`. -/
def loadWith (loader : Loader τ) (resolve : Resolve τ) (name : String) :
    Action (Run τ) Loaded := do
  loader.check name
  modify (Run.note [.parsing (loader.path name).text])
  let loaded ← Run.readRepository (loader.path name)
  modify (Run.register name loaded)
  loader.onLoad resolve loaded.repository
  return loaded

/-- Gives the repository that is registered under a name; any other is left to `load`. -/
def knownOr (load : Resolve τ) (name : String) : Action (Run τ) Loaded := do
  match (← get).registered? name with
  | some loaded =>
    modify (Run.note [.cached name])
    return loaded
  | none => load name

def resolveWithin (loader : Loader τ) : Nat → Resolve τ
  | 0 => knownOr fun _ => throw .tooDeep
  | depth + 1 => knownOr (loader.loadWith (loader.resolveWithin depth))

/-- The repository of a name, which is read at most once. -/
def resolve (loader : Loader τ) (name : String) : Action (Run τ) Loaded := do
  loader.resolveWithin (← get).depth name

def load (loader : Loader τ) (name : String) : Action (Run τ) Loaded := do
  loader.loadWith (loader.resolveWithin (← get).depth) name

end Loader

end ZigBindings
