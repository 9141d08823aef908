import ZigBindings.Include.Walk
import ZigBindings.Generation.Loader
import ZigBindings.Zig.Module

/-!
# Generating modules

Every namespace of every repository that is loaded becomes a module, written as soon as the
repository is registered. The file of a module is created first; while the header is made, the
repositories that are included are loaded and their modules generated; only then is the text
written, over what may have come into the file in between.
-/

namespace ZigBindings

/-- The state of a generation: a run that keeps the paths of the modules written so far. -/
abbrev Generation := Run (List Path)

structure Generator where
  input : Path
  output : Path

namespace Generator

def modulePath (generator : Generator) (name : String) : Path :=
  generator.output.below (moduleFileName name)

def createModule (path : Path) : Action Generation Unit := do
  let run ← get
  match run.files.create path with
  | .ok files => set { run with files }
  | .error problem => throw (.because (.notCreated path.text problem.reason))

def header (resolve : Resolve (List Path)) (depth : Nat) (name : String)
    (includes : List Include) : Action Generation (List String) :=
  let resolver : Walk.Resolver Generation := fun source => do
    return (← resolve source).repository.includes
  Walk.afresh (Walk.header resolver depth name includes)

def writeModule (path : Path) (content : String) (run : Generation) : Generation :=
  let run := { run with files := run.files.writeOver path (Text.utf8Bytes content.toList) }
  let run := run.note [.wrote path.text content.length]
  { run with extra := run.extra ++ [path] }

@[simp]
theorem write_files (path : Path) (content : String) (run : Generation) :
    (writeModule path content run).files =
      run.files.writeOver path (Text.utf8Bytes content.toList) :=
  rfl

@[simp]
theorem write_registry (path : Path) (content : String) (run : Generation) :
    (writeModule path content run).registry = run.registry :=
  rfl

@[simp]
theorem write_extra (path : Path) (content : String) (run : Generation) :
    (writeModule path content run).extra = run.extra ++ [path] :=
  rfl

def generateNamespace (generator : Generator) (depth : Nat) (resolve : Resolve (List Path))
    (includes : List Include) (space : Namespace) : Action Generation Unit := do
  let path := generator.modulePath space.name
  createModule path
  let lines ← header resolve depth space.name includes
  modify (Run.note (space.variadics.map .variadic))
  modify (writeModule path (space.moduleText (lines ++ [""])))

/-- Generates the modules of a repository, namespace after namespace. A failure says which namespace
of which repository was being worked on, unless a deeper one has been named. -/
def generateRepository (generator : Generator) (depth : Nat) (resolve : Resolve (List Path))
    (repository : Repository) : Action Generation Unit :=
  repository.namespaces.forM fun space =>
    (generator.generateNamespace depth resolve repository.includes space).mapStop fun stop =>
      (stop.annotate "repository" repository.path).annotate "namespace" space.name

/-- The loader that generates the modules of every repository it loads, with walks to the given
depth. -/
def loader (generator : Generator) (depth : Nat) : Loader (List Path) where
  directory := generator.input
  onLoad := generator.generateRepository depth

def generateRoot (generator : Generator) (root : String) : Action Generation Unit := do
  let _ ← (generator.loader (← get).depth).resolve root

/-- Generates the modules of the repositories of the given names, and of all that they include, and
gives the paths of all modules that have been written so far. -/
def generate (generator : Generator) (roots : List String) : Action Generation (List Path) := do
  roots.forM generator.generateRoot
  return (← get).extra

end Generator

end ZigBindings
