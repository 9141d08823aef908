import Mathlib.Data.List.Basic
import ZigBindings.Proofs.Generation.Outputs

/-!
# Modules that share a file

The name of a file is that of a namespace in lower case, so that modules may share one. What is
written last goes over what is there, and the rest of a longer text stays when it was written while
the file was open for the other.
-/

namespace ZigBindings

namespace Generator

/-- Whether a layer is the text of a module of a registered repository that belongs at a path. -/
structure Layer.Registered (generator : Generator) (run : Generation) (path : Path)
    (layer : Layer) : Prop where
  known : ∃ loaded, run.registered? layer.name = some loaded ∧
    loaded.repository = layer.repository
  listed : layer.space ∈ layer.repository.namespaces
  belongs : ∃ location, run.files.locate path = .ok location ∧
    generator.Belongs run.files location layer.space
  text : run.moduleBytes? layer.repository layer.space = some layer.content

variable {generator : Generator} {start run : Generation} {roots : List String}
  {done : List Frame} {path : Path}

theorem Filed.layers_at (filed : Filed generator start roots ⟨run, [], done⟩)
    (listed : path ∈ run.extra) :
    ∃ layers, layers ≠ [] ∧ (∀ layer ∈ layers, layer.Registered generator run path) ∧
      layers.IsChain (fun upper lower =>
        (start.links generator.input).Reaches upper.name lower.name) ∧
      run.files.read path = .ok (layered layers) := by
  have under := filed.accounted.sound.under.files
  obtain ⟨frame, member, space, written, rfl⟩ := filed.accounted.listed_iff.mp listed
  obtain ⟨location, belongs, _⟩ :=
    (filed.laid frame member).placed space (List.mem_append_left _ written)
  have located := under.locate_iff.mpr belongs
  rcases filed.contents location with untouched | ⟨layers, layered⟩
  · exact absurd belongs (untouched.unwritten frame.name frame.repository space
      ⟨frame, member, rfl, rfl, written⟩)
  · refine ⟨layers, fun nothing => ?_, fun layer isLayer => ?_, layered.nested,
      Files.read_eq_ok_iff.mpr ⟨location, located, layered.held⟩⟩
    · obtain ⟨_, _, working, _⟩ := layered.used nothing
      cases working
    · obtain ⟨⟨other, member', name, repository, written'⟩, belongs', renders⟩ :=
        layered.written layer isLayer
      have known := filed.accounted.loaded member'
      have aligned := (filed.laid other member').aligned
      rw [name, repository] at known
      rw [repository] at aligned
      exact ⟨known, aligned.subset (List.mem_append_left _ written'),
        ⟨location, located, under.locate_iff.mpr belongs'⟩, renders.bytes⟩

/-- A listed file holds texts of modules that belong there, one over the other, each of a repository
that leads to the next. Where no repository leads to another with which it shares a file, every
listed file holds the text of one module. -/
theorem shared_files_hold_layers (generator : Generator) (start after : Generation)
    (roots : List String) (paths : List Path) (nothing : start.registry = [])
    (unlisted : start.extra = []) (made : generator.generate roots start = .ok paths after) :
    (∀ path ∈ paths, ∃ layers, layers ≠ [] ∧
        (∀ layer ∈ layers, layer.Registered generator after path) ∧
        layers.IsChain (fun upper lower =>
          (start.links generator.input).Reaches upper.name lower.name) ∧
        after.files.read path = .ok (layered layers)) ∧
      ((∀ upper ∈ after.names, ∀ lower ∈ after.names,
          (start.links generator.input).Reaches upper lower →
          (generator.locationsOf after upper).Disjoint (generator.locationsOf after lower)) →
        ∀ path ∈ paths, ∃ layer : Layer, layer.Registered generator after path ∧
          after.files.read path = .ok layer.content) := by
  obtain ⟨rfl, _, done, filed⟩ := filed_of_returned nothing unlisted made
  refine ⟨fun path => filed.layers_at, fun apart path listed => ?_⟩
  have place : ∀ layer : Layer, layer.Registered generator after path → ∃ location,
      after.files.locate path = .ok location ∧ layer.name ∈ after.names ∧
      location ∈ generator.locationsOf after layer.name := by
    rintro layer ⟨⟨loaded, known, same⟩, isSpace, ⟨location, located, belongs⟩, _⟩
    refine ⟨location, located, Run.registered_iff.mp (Option.isSome_of_eq_some known), ?_⟩
    refine (mem_locations_iff (Run.repository_of_registered known)).mpr ⟨layer.space, ?_, belongs⟩
    rw [same]
    exact isSpace
  obtain ⟨layers, some, registered, nested, readable⟩ := filed.layers_at listed
  match layers with
  | [] => exact absurd rfl some
  | [layer] =>
      refine ⟨layer, registered layer (by simp), ?_⟩
      simpa [layered, Files.overlay_nil] using readable
  -- Of two layers the upper repository leads to the lower one, and both have modules here.
  | upper :: lower :: rest =>
      obtain ⟨location, located, isUpper, here⟩ := place upper (registered upper (by simp))
      obtain ⟨location', located', isLower, there⟩ := place lower (registered lower (by simp))
      rw [located] at located'
      cases located'
      have leads := (List.isChain_cons_cons.mp nested).1
      exact absurd there (apart upper.name isUpper lower.name isLower leads here)

/-- A repository whose module shares a file with that of one that it includes. -/
def nestedShelf : Generation :=
  shelf [("glib", ["GLib"]), ("GLib", [])]

theorem nested_shelf_mixed :
    ∃ result ∈ (shelfGenerator.generate ["glib-1.gir"]).returned? nestedShelf,
      ∃ path ∈ result.1, ∃ content ∈ (result.2.files.read path).toOption,
        ∀ entry ∈ result.2.registry, ∀ space ∈ entry.2.repository.namespaces,
          result.2.moduleBytes? entry.2.repository space ≠ some content := by
  decide +kernel

theorem shared_files_hold_layers_nested :
    ∃ paths after, shelfGenerator.generate ["glib-1.gir"] nestedShelf = .ok paths after ∧
      paths ≠ [] ∧ ∀ path ∈ paths, ∃ layers, layers ≠ [] ∧
        (∀ layer ∈ layers, layer.Registered shelfGenerator after path) ∧
        after.files.read path = .ok (layered layers) := by
  obtain ⟨⟨paths, after⟩, returned, path, listed, _⟩ := nested_shelf_mixed
  have made := Action.of_returned returned
  obtain ⟨layers, _⟩ := shared_files_hold_layers shelfGenerator nestedShelf after ["glib-1.gir"]
    paths rfl rfl made
  refine ⟨paths, after, made, List.ne_nil_of_mem listed, fun path listed => ?_⟩
  obtain ⟨texts, some, registered, _, readable⟩ := layers path listed
  exact ⟨texts, some, registered, readable⟩

/-- The text of a module goes over that of a longer one in the same file, to whose repository its
own leads, and leaves its end there: the file holds the text of neither. -/
theorem shared_file_mixed :
    ∃ paths after path content,
      shelfGenerator.generate ["glib-1.gir"] nestedShelf = .ok paths after ∧
      path ∈ paths ∧ after.files.read path = .ok content ∧
      ∀ name loaded, after.registered? name = some loaded →
        ∀ space ∈ loaded.repository.namespaces,
          after.moduleBytes? loaded.repository space ≠ some content := by
  obtain ⟨⟨paths, after⟩, returned, path, listed, content, found, mixed⟩ := nested_shelf_mixed
  have readable : after.files.read path = .ok content := by
    cases held : after.files.read path with
    | error problem => simp [held, Except.toOption] at found
    | ok old => simpa [held, Except.toOption] using found
  refine ⟨paths, after, path, content, Action.of_returned returned, listed, readable,
    fun name loaded known => ?_⟩
  obtain ⟨_, _, split, _⟩ := List.lookup_eq_some_iff.mp known
  exact mixed (name, loaded) (by simp [split])

end Generator

end ZigBindings
