import Mathlib.Data.List.Basic
import ZigBindings.Generation.Loader
import ZigBindings.Include.Graph
import ZigBindings.Proofs.Files.Spread
import ZigBindings.Proofs.Repository.Refusal

/-!
# Documents and loading

Which repository a name stands for in a run, and what loading it comes to: a document that holds a
repository is registered and handed to the hook, and any other stops the loading with nothing but
records in the log. The sources that the repositories of a run refer to are counted by its depth.
-/

namespace ZigBindings

open ZigBindings.Markup

/-- The repository that the document of a name in a directory holds, if it can be read. -/
def Files.document? (files : Files) (directory : Path) (name : String) : Option Repository :=
  match files.read (directory.below name) with
  | .ok content => (Repository.read (directory.below name).text (.bytes content)).toOption
  | .error _ => none

namespace Run

variable {τ : Type}

/-- The repository that a name stands for: the one registered, or else the one that its document
holds. -/
def repository? (run : Run τ) (directory : Path) (name : String) : Option Repository :=
  match run.registered? name with
  | some loaded => some loaded.repository
  | none => run.files.document? directory name

def links (run : Run τ) (directory : Path) : Links := fun name =>
  (run.repository? directory name).map Repository.includes

/-- The sources that documents and registered repositories refer to. -/
def pool (run : Run τ) : List String :=
  (run.files.entries.flatMap fun entry => sourcesOf entry.2) ++
    run.registry.flatMap fun entry => entry.2.repository.sources

end Run

theorem document_eq_some_iff {files : Files} {directory : Path} {name : String}
    {repository : Repository} :
    files.document? directory name = some repository ↔
      ∃ content, files.read (directory.below name) = .ok content ∧
        Repository.read (directory.below name).text (.bytes content) = .ok repository := by
  unfold Files.document?
  cases readable : files.read (directory.below name) with
  | error problem => simp
  | ok content =>
      cases held : Repository.read (directory.below name).text (.bytes content) with
      | error stop => simp [held, Except.toOption]
      | ok found => simp [held, Except.toOption]

section Sources

theorem mem_of_mapM {α β : Type} {read : α → Except Stop β} {items : List α} {values : List β}
    {value : β} (all : items.mapM read = .ok values) (member : value ∈ values) :
    ∃ item ∈ items, read item = .ok value := by
  induction items generalizing values with
  | nil =>
      cases all
      cases member
  | cons item rest ih =>
      rw [List.mapM_cons] at all
      cases first : read item with
      | error stop =>
          rw [first] at all
          cases all
      | ok head =>
          cases others : rest.mapM read with
          | error stop =>
              rw [first, others] at all
              cases all
          | ok tail =>
              rw [first, others] at all
              cases all
              rcases List.mem_cons.mp member with rfl | later
              · exact ⟨item, by simp, first⟩
              · obtain ⟨item', listed, same⟩ := ih others later
                exact ⟨item', by simp [listed], same⟩

theorem include_elsewhere {path : String} {node : Node} {entry : Include} (other : String)
    (read : Reader.includeEntry path node = .ok entry) :
    Reader.includeEntry other node = .ok entry := by
  unfold Reader.includeEntry at read ⊢
  cases name : Reader.attribute? node "name" with
  | none => simp [Reader.required, name, bind, Except.bind] at read
  | some spelled =>
      cases version : Reader.attribute? node "version" with
      | none => simp [Reader.required, name, version, bind, Except.bind] at read
      | some number =>
          rw [Reader.required_eq_ok_iff.mpr name, Reader.required_eq_ok_iff.mpr version] at read ⊢
          exact read

theorem sources_of_read {path : String} {content : List UInt8} {repository : Repository}
    (read : Repository.read path (.bytes content) = .ok repository) :
    repository.sources ⊆ Run.sourcesOf (.file content) := by
  intro source member
  obtain ⟨entry, listed, rfl⟩ := List.mem_map.mp member
  unfold Repository.read at read
  cases outcome : (Source.bytes content).read with
  | malformed =>
      rw [outcome] at read
      cases read
  | unknownEncoding name =>
      rw [outcome] at read
      cases read
  | tree root =>
      rw [outcome] at read
      simp only [Reader.repository] at read
      split_ifs at read
      cases includes : Reader.each root (core "include") (Reader.includeEntry path) with
      | error stop => simp [includes, bind, Except.bind] at read
      | ok entries =>
          cases spaces : Reader.each root (core "namespace") (Reader.namespaceEntry path) with
          | error stop => simp [includes, spaces, bind, Except.bind] at read
          | ok namespaces =>
              rw [includes, spaces] at read
              cases read
              obtain ⟨child, isChild, same⟩ := mem_of_mapM includes listed
              simp only [Run.sourcesOf, outcome]
              refine List.mem_filterMap.mpr ⟨child, isChild, ?_⟩
              simp [Run.sourceOf?, include_elsewhere "" same]

end Sources

namespace Run

variable {τ : Type} {run : Run τ} {directory : Path} {name : String}

theorem repository_of_registered {loaded : Loaded} (known : run.registered? name = some loaded) :
    run.repository? directory name = some loaded.repository := by
  simp [repository?, known]

theorem repository_of_document (fresh : run.registered? name = none) :
    run.repository? directory name = run.files.document? directory name := by
  simp [repository?, fresh]

theorem edge_iff {source target : String} :
    (run.links directory).Edge source target ↔
      ∃ repository, run.repository? directory source = some repository ∧
        target ∈ repository.sources := by
  constructor
  · rintro ⟨includes, found, entry, listed, rfl⟩
    obtain ⟨repository, held, rfl⟩ := Option.map_eq_some_iff.mp found
    exact ⟨repository, held, List.mem_map_of_mem listed⟩
  · rintro ⟨repository, held, member⟩
    obtain ⟨entry, listed, rfl⟩ := List.mem_map.mp member
    exact ⟨repository.includes, by simp [links, held], entry, listed, rfl⟩

theorem depth_eq (run : Run τ) : run.depth = run.pool.length + 2 := by
  simp [depth, pool]

theorem mem_pool_of_edge {source target : String}
    (edge : (run.links directory).Edge source target) : target ∈ run.pool := by
  obtain ⟨repository, held, member⟩ := edge_iff.mp edge
  unfold pool
  cases known : run.registered? source with
  | some loaded =>
      rw [repository_of_registered known] at held
      cases held
      obtain ⟨before, behind, split, _⟩ := List.lookup_eq_some_iff.mp known
      refine List.mem_append_right _ (List.mem_flatMap.mpr ⟨(source, loaded), ?_, member⟩)
      simp [split]
  | none =>
      rw [repository_of_document known] at held
      obtain ⟨content, readable, read⟩ := document_eq_some_iff.mp held
      obtain ⟨location, _, there⟩ := Files.read_eq_ok_iff.mp readable
      refine List.mem_append_left _ (List.mem_flatMap.mpr ?_)
      have listed : ∃ entry ∈ run.files.entries, entry.2 = .file content := by
        unfold Files.at? at there
        split_ifs at there with outer
        · cases there
        obtain ⟨before, behind, split, _⟩ := List.lookup_eq_some_iff.mp there
        exact ⟨(location, .file content), by simp [split], rfl⟩
      obtain ⟨entry, isEntry, same⟩ := listed
      exact ⟨entry, isEntry, same ▸ sources_of_read read member⟩

theorem registered_register (run : Run τ) (name other : String) (loaded : Loaded) :
    (run.register name loaded).registered? other =
      if other = name then some loaded else run.registered? other := by
  unfold register registered?
  split_ifs with there same same
  · subst same
    rw [Files.lookup_replaced, if_pos rfl]
    obtain ⟨old, found⟩ := Option.isSome_iff_exists.mp there
    rw [found]
    rfl
  · rw [Files.lookup_replaced, if_neg same]
  · subst same
    rw [List.lookup_append, Option.not_isSome_iff_eq_none.mp there]
    simp
  · have miss : (other == name) = false := beq_eq_false_iff_ne.mpr same
    simp [List.lookup_append, List.lookup_cons, miss]

theorem register_files (run : Run τ) (name : String) (loaded : Loaded) :
    (run.register name loaded).files = run.files := by
  unfold register
  split_ifs <;> rfl

def opened (run : Run τ) (directory : Path) (name : String) : Run τ :=
  { run.note [.parsing (directory.below name).text] with readings := run.readings + 1 }

def enlist (run : Run τ) (directory : Path) (name : String) (repository : Repository) : Run τ :=
  (run.opened directory name).register name ⟨run.readings, repository⟩

theorem enlist_registered (run : Run τ) (directory : Path) (name : String)
    (repository : Repository) :
    (run.enlist directory name repository).registered? name =
      some ⟨run.readings, repository⟩ := by
  unfold enlist
  rw [registered_register, if_pos rfl]

end Run

namespace Loader

variable {τ : Type} {loader : Loader τ} {run : Run τ} {name : String}

theorem known_apply {load : Resolve τ} {loaded : Loaded}
    (known : run.registered? name = some loaded) :
    knownOr load name run = .ok loaded (run.note [.cached name]) := by
  simp only [knownOr, Action.bind_apply, Action.get_apply, known, Action.modify_apply,
    Action.pure_apply]

theorem unknown_apply {load : Resolve τ} (fresh : run.registered? name = none) :
    knownOr load name run = load name run := by
  simp only [knownOr, Action.bind_apply, Action.get_apply, fresh]

theorem resolve_apply (loader : Loader τ) (name : String) (run : Run τ) :
    loader.resolve name run = loader.resolveWithin run.depth name run := by
  rw [resolve, Action.bind_apply, Action.get_apply]

theorem load_of_document (loader : Loader τ) (resolve : Resolve τ) {repository : Repository}
    (held : run.files.document? loader.directory name = some repository) :
    loader.loadWith resolve name run =
      (do
        loader.onLoad resolve repository
        return ⟨run.readings, repository⟩ : Action (Run τ) Loaded)
        (run.enlist loader.directory name repository) := by
  obtain ⟨content, readable, read⟩ := document_eq_some_iff.mp held
  have checked : loader.check name run = .ok () run := by
    have found := Files.is_file_iff.mpr ⟨content, readable⟩
    simp [check, path, found]
  have loaded : Run.readRepository (loader.path name) (run.note [.parsing (loader.path name).text]) =
      .ok ⟨run.readings, repository⟩ (run.opened loader.directory name) := by
    simp [Run.readRepository, Run.note, Run.opened, path, readable, read, Action.ofExcept]
  simp only [loadWith, Action.bind_apply, checked, Action.modify_apply, loaded, Run.enlist]

/-- What stops the loading of a name, and what has been noted by then: whether there is a file
cannot be told, there is none, or what the file holds is refused. -/
inductive Refused (loader : Loader τ) (run : Run τ) (name : String) :
    Stop → List LogRecord → Prop
  | untold {problem : FileProblem} (answer : run.files.isFile (loader.path name) = .error problem) :
      Refused loader run name (.nameTooLong (loader.path name).text) []
  | absent (answer : run.files.isFile (loader.path name) = .ok false) :
      Refused loader run name
        (.because (.unknownRepository name loader.directory.text (loader.path name).text)) []
  | unread {content : List UInt8} {stop : Stop}
      (readable : run.files.read (loader.path name) = .ok content)
      (refused : Repository.read (loader.path name).text (.bytes content) = .error stop) :
      Refused loader run name stop [.parsing (loader.path name).text]

theorem Refused.not_deep {stop : Stop} {records : List LogRecord}
    (refused : loader.Refused run name stop records) : stop ≠ .tooDeep := by
  cases refused with
  | untold => simp
  | absent => simp [Stop.because]
  | unread _ refused =>
      rintro rfl
      rcases read_refusal refused with ⟨cause, same, _⟩ | ⟨encoding, same⟩
      · cases same
      · cases same

theorem Refused.noted {stop : Stop} {records : List LogRecord}
    (refused : loader.Refused run name stop records) :
    records = [] ∨ records = [.parsing (loader.directory.below name).text] := by
  cases refused with
  | untold => exact .inl rfl
  | absent => exact .inl rfl
  | unread => exact .inr rfl

theorem load_of_check {stop : Stop} (checked : loader.check name run = .error stop run)
    (resolve : Resolve τ) :
    loader.loadWith resolve name run = .error stop (run.note []) := by
  simp only [loadWith, Action.bind_apply, checked, Run.note, List.append_nil]

theorem load_refused (loader : Loader τ)
    (missing : run.files.document? loader.directory name = none) :
    ∃ stop records, loader.Refused run name stop records ∧
      ∀ resolve, loader.loadWith resolve name run = .error stop (run.note records) := by
  cases answer : run.files.isFile (loader.path name) with
  | error problem =>
      have checked : loader.check name run =
          .error (.nameTooLong (loader.path name).text) run := by
        simp [check, answer]
      exact ⟨_, [], .untold answer, load_of_check checked⟩
  | ok found =>
      cases found with
      | false =>
          have checked : loader.check name run = .error (.because
              (.unknownRepository name loader.directory.text (loader.path name).text)) run := by
            simp [check, answer]
          exact ⟨_, [], .absent answer, load_of_check checked⟩
      | true =>
          obtain ⟨content, readable⟩ := Files.is_file_iff.mp answer
          have checked : loader.check name run = .ok () run := by
            simp [check, answer]
          cases read : Repository.read (loader.path name).text (.bytes content) with
          | ok repository =>
              have held := document_eq_some_iff.mpr ⟨content, readable, read⟩
              rw [missing] at held
              cases held
          | error stop =>
              have refused : Run.readRepository (loader.path name)
                  (run.note [.parsing (loader.path name).text]) =
                    .error stop (run.note [.parsing (loader.path name).text]) := by
                simp [Run.readRepository, Run.note, readable, read, Action.ofExcept]
              refine ⟨stop, _, .unread readable read, fun resolve => ?_⟩
              simp only [loadWith, Action.bind_apply, checked, Action.modify_apply, refused]

theorem refused_of_load (loader : Loader τ) {resolve : Resolve τ} {stop : Stop} {after : Run τ}
    (missing : run.files.document? loader.directory name = none)
    (stopped : loader.loadWith resolve name run = .error stop after) :
    ∃ records, loader.Refused run name stop records ∧ after = run.note records := by
  obtain ⟨_, records, refused, same⟩ := loader.load_refused missing
  rw [same] at stopped
  cases stopped
  exact ⟨records, refused, rfl⟩

end Loader

end ZigBindings
