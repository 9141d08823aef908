import Mathlib.Data.List.Basic
import ZigBindings.Generation.Generator
import ZigBindings.Proofs.Generation.ModuleText
import ZigBindings.Proofs.Generation.Registry

/-!
# Generations underway

What holds at every moment of a generation, however deep inside and whether or not it is about to
stop: files have changed only where modules of repositories in scope belong, and hold nothing that
could be taken for a document there; whatever has been registered is what its name stood for at the
start.
-/

namespace ZigBindings

namespace Generator

def Writes (generator : Generator) (start : Generation) (scope : String → Prop)
    (location : Location) : Prop :=
  ∃ name repository space, scope name ∧
    start.repository? generator.input name = some repository ∧ space ∈ repository.namespaces ∧
    start.files.locate (generator.modulePath space.name) = .ok location

/-- A run that a generation has come to: files have changed only where modules belong, and what is
registered is what its name stood for at the start. -/
structure Underway (generator : Generator) (start : Generation) (scope : String → Prop)
    (run : Generation) : Prop where
  files : Files.Spread (generator.Writes start scope) NoDocument start.files run.files
  drawn : ∀ name loaded, run.registered? name = some loaded →
    start.repository? generator.input name = some loaded.repository
  grown : start.Grown run

variable {generator : Generator} {start run after : Generation} {scope : String → Prop}

theorem underway_refl (generator : Generator) (start : Generation) (scope : String → Prop) :
    generator.Underway start scope start :=
  ⟨Files.spread_refl _, fun _ _ known => Run.repository_of_registered known, grown_refl start⟩

theorem Underway.document (under : generator.Underway start scope run) {name : String}
    {repository : Repository} (fresh : run.registered? name = none)
    (held : run.files.document? generator.input name = some repository) :
    start.repository? generator.input name = some repository := by
  rw [Run.repository_of_document (under.grown.fresh fresh)]
  obtain ⟨content, readable, read⟩ := document_eq_some_iff.mp held
  have isDocument : ¬NoDocument content := fun none => none _ _ read
  exact document_eq_some_iff.mpr ⟨content, under.files.read_before readable isDocument, read⟩

theorem Underway.document_after (under : generator.Underway start scope run) {name : String}
    {repository : Repository} (held : start.files.document? generator.input name = some repository)
    (apart : ∀ location, start.files.locate (generator.input.below name) = .ok location →
      ¬generator.Writes start scope location) :
    run.files.document? generator.input name = some repository := by
  obtain ⟨content, readable, read⟩ := document_eq_some_iff.mp held
  obtain ⟨location, located, _⟩ := Files.read_eq_ok_iff.mp readable
  exact document_eq_some_iff.mpr
    ⟨content, under.files.read_after located (apart location located) readable, read⟩

theorem Underway.step (under : generator.Underway start scope run)
    (registry : after.registry = run.registry)
    (files : Files.Spread (generator.Writes start scope) NoDocument run.files after.files) :
    generator.Underway start scope after := by
  refine ⟨under.files.trans files, fun name loaded known => ?_,
    under.grown.trans (grown_of_registry registry)⟩
  refine under.drawn name loaded ?_
  unfold Run.registered? at known ⊢
  rw [← registry]
  exact known

theorem Underway.note (under : generator.Underway start scope run) (records : List LogRecord) :
    generator.Underway start scope (run.note records) :=
  under.step rfl (Files.spread_refl _)

theorem Underway.enlist (under : generator.Underway start scope run) {name : String}
    {repository : Repository} (fresh : run.registered? name = none)
    (held : start.repository? generator.input name = some repository) :
    generator.Underway start scope (run.enlist generator.input name repository) := by
  constructor
  · unfold Run.enlist
    rw [Run.register_files]
    exact under.files
  · intro other loaded known
    unfold Run.enlist at known
    rw [Run.registered_register] at known
    split_ifs at known with same
    · cases known
      exact same ▸ held
    · exact under.drawn other loaded known
  · exact under.grown.trans (grown_enlist fresh _ _)

structure IsModule (generator : Generator) (start : Generation) (scope : String → Prop)
    (name : String) (repository : Repository) (space : Namespace) : Prop where
  inScope : scope name
  held : start.repository? generator.input name = some repository
  listed : space ∈ repository.namespaces

section Modules

variable {name : String} {repository : Repository} {space : Namespace}

theorem IsModule.place (isModule : generator.IsModule start scope name repository space)
    (under : generator.Underway start scope run) {location : Location}
    (located : run.files.locate (generator.modulePath space.name) = .ok location) :
    generator.Writes start scope location :=
  ⟨name, repository, space, isModule.inScope, isModule.held, isModule.listed,
    under.files.locate_iff.mp located⟩

theorem create_ok {path : Path} (created : createModule path run = .ok () after) :
    ∃ location, run.files.locate path = .ok location ∧ run.files.at? location ≠ some .directory ∧
      after = { run with files := run.files.put location (.file []) } := by
  unfold createModule at created
  simp only [Action.bind_apply, Action.get_apply] at created
  cases result : run.files.create path with
  | error problem =>
      rw [result] at created
      cases created
  | ok files =>
      rw [result] at created
      cases created
      obtain ⟨location, located, plain, rfl⟩ := Files.create_eq_ok_iff.mp result
      exact ⟨location, located, plain, rfl⟩

theorem create_error {path : Path} {stop : Stop}
    (refused : createModule path run = .error stop after) :
    ∃ reason, stop = .because (.notCreated path.text reason) ∧ after = run := by
  unfold createModule at refused
  simp only [Action.bind_apply, Action.get_apply] at refused
  cases result : run.files.create path with
  | ok files =>
      rw [result] at refused
      cases refused
  | error problem =>
      rw [result] at refused
      cases refused
      exact ⟨problem.reason, rfl, rfl⟩

def Blank (run : Generation) (path : Path) : Prop :=
  ∀ location old, run.files.locate path = .ok location →
    run.files.at? location = some (.file old) → old = []

theorem blank_of_create {path : Path} (created : createModule path run = .ok () after) :
    Blank after path := by
  intro location old located there
  obtain ⟨place, atPlace, plain, rfl⟩ := create_ok created
  have anywhere : Files.Spread (fun _ => True) (fun _ => True) run.files
      (run.files.put place (.file [])) := Files.spread_put trivial trivial plain
  have same := anywhere.locate_iff.mp located
  rw [atPlace] at same
  cases same
  dsimp only at there
  rw [Files.at_put_same run.files plain] at there
  cases there
  rfl

theorem Underway.create (under : generator.Underway start scope run)
    (isModule : generator.IsModule start scope name repository space)
    (created : createModule (generator.modulePath space.name) run = .ok () after) :
    generator.Underway start scope after := by
  obtain ⟨location, located, plain, rfl⟩ := create_ok created
  apply under.step
  · rfl
  · exact Files.spread_put (isModule.place under located) no_document_nil plain

theorem write_cases (files : Files) (path : Path) (content : List UInt8) :
    files.writeOver path content = files ∨
      ∃ location old, files.locate path = .ok location ∧
        files.at? location = some (.file old) ∧
        files.writeOver path content = files.put location (.file (Files.overlay content old)) := by
  unfold Files.writeOver
  cases located : files.locate path with
  | error problem => exact .inl rfl
  | ok location =>
      dsimp only
      cases there : files.at? location with
      | none => exact .inl rfl
      | some entry =>
          cases entry with
          | directory => exact .inl rfl
          | file old => exact .inr ⟨location, old, rfl, there, rfl⟩

/-- The text of a module can be taken for no document, whatever is left of an older text: with
imports it starts with one of them, and without any the file is still empty. -/
theorem module_text_fits {space : Namespace} {lines : List String} {old : List UInt8}
    (imports : ∀ line ∈ lines, ∃ name, line = importLine name) (empty : lines = [] → old = []) :
    NoDocument (Files.overlay
      (Text.utf8Bytes (space.moduleText (lines ++ [""])).toList) old) := by
  cases lines with
  | nil =>
      rw [empty rfl]
      unfold Files.overlay
      rw [List.drop_nil, List.append_nil]
      exact no_document_of_declarations space
  | cons line rest =>
      obtain ⟨name, rfl⟩ := imports line (by simp)
      exact no_document_of_imports name (rest ++ [""] ++ space.lines) old

def headerLines (name : String) (order : List Include) : List String :=
  order.map (importLine ·.name) ++ (Walk.impliedBy name).map importLine

theorem Underway.write (under : generator.Underway start scope run)
    (isModule : generator.IsModule start scope name repository space) {order : List Include}
    (blank : headerLines space.name order = [] → Blank run (generator.modulePath space.name)) :
    generator.Underway start scope
      (writeModule (generator.modulePath space.name)
        (space.moduleText (headerLines space.name order ++ [""])) run) := by
  have imports : ∀ line ∈ headerLines space.name order, ∃ name, line = importLine name := by
    intro line member
    rcases List.mem_append.mp member with imported | implied
    · obtain ⟨entry, _, rfl⟩ := List.mem_map.mp imported
      exact ⟨entry.name, rfl⟩
    · obtain ⟨other, _, rfl⟩ := List.mem_map.mp implied
      exact ⟨other, rfl⟩
  refine under.step (write_registry _ _ run) ?_
  rw [write_files]
  rcases write_cases run.files (generator.modulePath space.name)
    (Text.utf8Bytes (space.moduleText (headerLines space.name order ++ [""])).toList) with
    same | ⟨location, old, located, there, same⟩
  · rw [same]
    exact Files.spread_refl _
  · rw [same]
    refine Files.spread_put (isModule.place under located) ?_ (by rw [there]; nofun)
    exact module_text_fits imports fun nothing => blank nothing location old located there

end Modules

end Generator

end ZigBindings
