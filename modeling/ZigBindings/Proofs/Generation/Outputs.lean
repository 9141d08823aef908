import Mathlib.Data.List.Perm.Basic
import ZigBindings.Proofs.Generation.Knot
import ZigBindings.Proofs.Generation.Places

/-!
# What a generation leaves behind

When every module has a file of its own, and none of them is a document, all that a generation
leaves behind is fixed by the documents: its modules hold the texts that the includes give them, and
no other file has changed. The roots may come in any order.
-/

namespace ZigBindings

namespace Generator

/-- Whether all is there that a generation below some roots needs, as long as every module has a
file of its own. -/
structure Provided (generator : Generator) (start : Generation) (roots : List String) : Prop where
  held : ∀ name, Wanted generator start roots name →
    (start.repository? generator.input name).isSome
  creatable : ∀ name repository, Wanted generator start roots name →
    start.repository? generator.input name = some repository → ∀ space ∈ repository.namespaces,
    ∃ location, generator.Belongs start.files location space ∧
      start.files.at? location ≠ some .directory
  straight : ∀ name, Wanted generator start roots name → generator.modulesOf start name ≠ [] →
    ¬(start.links generator.input).Knotted name
  apart : ∀ name other location, Wanted generator start roots name →
    Wanted generator start roots other →
    start.files.locate (generator.input.below name) = .ok location →
    location ∉ generator.locationsOf start other

variable {generator : Generator} {start run after last : Generation} {roots others : List String}
  {paths : List Path} {active done ended : List Frame} {frame : Frame} {space : Namespace}
  {location : Location} {name : String} {stop : Stop}

theorem Wanted.of_same (same : ∀ root, root ∈ others ↔ root ∈ roots)
    (wanted : Wanted generator start others name) : Wanted generator start roots name := by
  rcases wanted with root | ⟨root, isRoot, some, reaches⟩
  · exact .inl ((same name).mp root)
  · exact .inr ⟨root, (same root).mp isRoot, some, reaches⟩

theorem Provided.of_same (provided : Provided generator start roots)
    (same : ∀ root, root ∈ others ↔ root ∈ roots) : Provided generator start others := by
  obtain ⟨held, creatable, straight, apart⟩ := provided
  constructor
  · exact fun name wanted => held name (wanted.of_same same)
  · exact fun name repository wanted => creatable name repository (wanted.of_same same)
  · exact fun name wanted => straight name (wanted.of_same same)
  · exact fun name other location wanted wanted' =>
      apart name other location (wanted.of_same same) (wanted'.of_same same)

section Provided

theorem Provided.document (provided : Provided generator start roots)
    (filed : Filed generator start roots ⟨run, active, done⟩)
    (wanted : Wanted generator start roots name) (fresh : run.registered? name = none) :
    ∃ repository, run.files.document? generator.input name = some repository := by
  have under := filed.accounted.sound.under
  obtain ⟨repository, held⟩ := Option.isSome_iff_exists.mp (provided.held name wanted)
  rw [Run.repository_of_document (under.grown.fresh fresh)] at held
  obtain ⟨content, readable, read⟩ := document_eq_some_iff.mp held
  obtain ⟨location, located, there⟩ := Files.read_eq_ok_iff.mp readable
  have still : run.files.at? location = start.files.at? location := by
    refine filed.unchanged fun frame member space begun belongs => ?_
    have wanted' := filed.accounted.wanted _ (filed.accounted.registered member)
    exact provided.apart name frame.name location wanted wanted' located
      (filed.mem_locations member begun belongs)
  have again : run.files.read (generator.input.below name) = .ok content :=
    Files.read_eq_ok_iff.mpr ⟨location, under.files.locate_iff.mpr located, still.trans there⟩
  exact ⟨repository, document_eq_some_iff.mpr ⟨content, again, read⟩⟩

theorem Provided.not_raised (provided : Provided generator start roots)
    (filed : Filed generator start roots ⟨run, active, done⟩) :
    ¬generator.Raised (start.links generator.input) roots ⟨run, active, done⟩ stop after := by
  have sound := filed.accounted.sound
  have wanted : ∀ frame ∈ active, Wanted generator start roots frame.name := fun frame working =>
    filed.accounted.wanted _ (filed.accounted.registered (List.mem_append_right done working))
  intro raises
  cases raises with
  | @cycle run outer done frame space order seen cycle opened course known =>
      have held := (sound.framed frame (by simp)).2.1
      have found : start.links generator.input frame.name = some frame.repository.includes := by
        simp [Run.links, held]
      have working : frame ∈ outer ++ [frame] := by simp
      have some := sound.modules working (Option.isSome_of_eq_some opened)
      obtain ⟨_, first, _, met, around⟩ := course.cycle_met
      exact provided.straight frame.name (wanted frame (by simp)) some
        ⟨first, (Links.met_iff_reaches found).mp met, Links.reaches_outside_nothing.mp around⟩
  | unread fresh missing asks refused =>
      obtain ⟨repository, held⟩ := provided.document filed (wanted_of_asks sound asks wanted) fresh
      rw [missing] at held
      cases held
  | @blocked run after outer done frame space rest stop idle next refused =>
      have held := (sound.framed frame (by simp)).2.1
      obtain ⟨location, belongs, plain⟩ := provided.creatable frame.name frame.repository
        (wanted frame (by simp)) held space (by simp [next])
      have located := sound.under.files.locate_iff.mpr belongs
      have created := Files.create_eq_ok_iff.mpr
        ⟨location, located, mt (sound.under.files.directory_iff location).mp plain, rfl⟩
      simp [createModule, created] at refused

end Provided

section Ended

variable (accounted : Accounted generator start roots ⟨run, [], done⟩)

include accounted

theorem Accounted.finished (registered : name ∈ run.names) : ∃ frame ∈ done, frame.name = name := by
  obtain ⟨frame, finished | working, same⟩ :=
    accounted.kept.registered_iff.mp (Run.registered_iff.mpr registered)
  · exact ⟨frame, finished, same⟩
  · cases working

theorem Accounted.written_iff (member : frame ∈ done) :
    space ∈ frame.written ↔ space ∈ frame.repository.namespaces := by
  rw [accounted.stacked.complete frame member]

/-- What is registered in the end depends on nothing but which roots there are. -/
theorem Accounted.wanted_iff (registered : ∀ root ∈ roots, (run.registered? root).isSome) :
    name ∈ run.names ↔ Wanted generator start roots name :=
  ⟨accounted.wanted name, accounted.all registered⟩

theorem Accounted.names_perm : run.names.Perm (done.map Frame.name) := by
  simpa using accounted.kept.names

theorem Accounted.listed_perm : run.extra.Perm (run.names.flatMap (generator.modulesOf start)) := by
  have listed : run.extra = done.flatMap fun frame => generator.modulePaths frame.written := by
    simpa [Listed] using accounted.listed
  rw [listed, accounted.modules]
  exact accounted.names_perm.symm.flatMap_right _

end Ended

section Returned

theorem filed_of_returned (nothing : start.registry = []) (unlisted : start.extra = [])
    (made : generator.generate roots start = .ok paths after) :
    paths = after.extra ∧ (∀ root ∈ roots, (after.registered? root).isSome) ∧
      ∃ done, Filed generator start roots ⟨after, [], done⟩ := by
  obtain ⟨same, done, steps, registered⟩ := (generate_steps generator start roots).of_ok made
  exact ⟨same, registered, done, steps.filed (filed_start generator roots nothing unlisted)⟩

theorem Provided.returns (provided : Provided generator start roots)
    (nothing : start.registry = []) (unlisted : start.extra = []) :
    ∃ after, generator.generate roots start = .ok after.extra after := by
  cases made : generator.generate roots start with
  | ok paths after =>
      obtain ⟨rfl, _⟩ := filed_of_returned nothing unlisted made
      exact ⟨after, rfl⟩
  | error stop after =>
      obtain ⟨run, active, done, raised, steps, raises, _⟩ :=
        (generate_steps generator start roots).of_error made
      have filed := steps.filed (filed_start generator roots nothing unlisted)
      exact absurd raises (provided.not_raised filed)

variable (filed : Filed generator start roots ⟨run, [], done⟩)

include filed

theorem Filed.mem_places_iff :
    location ∈ generator.places run ↔
      ∃ frame ∈ done, ∃ space ∈ frame.written, generator.Belongs start.files location space := by
  rw [filed.accounted.sound.under.places, List.mem_flatMap]
  constructor
  · rintro ⟨name, registered, place⟩
    obtain ⟨frame, member, rfl⟩ := filed.accounted.finished registered
    obtain ⟨space, listed, belongs⟩ :=
      (mem_locations_iff (filed.accounted.drawn frame member)).mp place
    exact ⟨frame, member, space, (filed.accounted.written_iff member).mpr listed, belongs⟩
  · rintro ⟨frame, member, space, written, belongs⟩
    exact ⟨frame.name, filed.accounted.registered (List.mem_append_left _ member),
      filed.mem_locations (List.mem_append_left _ member) (List.mem_append_left _ written) belongs⟩

theorem Filed.unchanged_elsewhere (elsewhere : location ∉ generator.places run) :
    run.files.at? location = start.files.at? location := by
  refine filed.unchanged fun frame member space begun belongs => elsewhere ?_
  have finished : frame ∈ done := by simpa using member
  refine filed.mem_places_iff.mpr ⟨frame, finished, space, ?_, belongs⟩
  exact (filed.accounted.written_iff finished).mpr ((filed.laid frame member).aligned.subset begun)

theorem Filed.provided (registered : ∀ root ∈ roots, (run.registered? root).isSome)
    (apart : ∀ name ∈ run.names, ∀ location ∈ generator.places run,
      run.files.locate (generator.input.below name) ≠ .ok location) :
    Provided generator start roots := by
  have under := filed.accounted.sound.under
  have known : ∀ name, Wanted generator start roots name → name ∈ run.names :=
    fun _ wanted => (filed.accounted.wanted_iff registered).mpr wanted
  constructor
  · intro name wanted
    obtain ⟨loaded, found⟩ :=
      Option.isSome_iff_exists.mp (Run.registered_iff.mpr (known name wanted))
    simp [under.drawn name loaded found]
  · intro name repository wanted held space listed
    obtain ⟨frame, finished, rfl⟩ := filed.accounted.finished (known name wanted)
    have same := filed.accounted.drawn frame finished
    rw [held] at same
    cases same
    exact (filed.laid frame (List.mem_append_left _ finished)).placed space
      (List.mem_append_left _ ((filed.accounted.written_iff finished).mpr listed))
  · intro name wanted some
    obtain ⟨frame, finished, rfl⟩ := filed.accounted.finished (known name wanted)
    exact filed.accounted.not_knotted finished some
  · intro name other location wanted wanted' located place
    refine apart name (known name wanted) location ?_ (under.files.locate_iff.mpr located)
    rw [under.places]
    exact List.mem_flatMap.mpr ⟨other, known other wanted', place⟩

/-- Two generations from the same start that register the same names leave the same files. -/
theorem Filed.same_files (again : Filed generator start others ⟨last, [], ended⟩)
    (same : last.names.Perm run.names) (distinct : (generator.places run).Nodup)
    (location : Location) : last.files.at? location = run.files.at? location := by
  have under := filed.accounted.sound.under
  have under' := again.accounted.sound.under
  have places : (generator.places last).Perm (generator.places run) := by
    rw [under.places, under'.places]
    exact same.flatMap_right _
  by_cases place : location ∈ generator.places run
  · obtain ⟨frame, member, space, written, belongs⟩ := filed.mem_places_iff.mp place
    obtain ⟨other, member', named⟩ := again.accounted.finished
      (same.mem_iff.mpr (filed.accounted.registered (List.mem_append_left _ member)))
    have drawn := again.accounted.drawn other member'
    rw [named, filed.accounted.drawn frame member] at drawn
    have repository : other.repository = frame.repository := (Option.some.inj drawn).symm
    have written' : space ∈ other.written := by
      rw [again.accounted.written_iff member', repository]
      exact (filed.accounted.written_iff member).mp written
    obtain ⟨content, renders, held⟩ :=
      filed.renders_at distinct (List.mem_append_left _ member) written belongs
    obtain ⟨text, renders', held'⟩ := again.renders_at (places.nodup_iff.mpr distinct)
      (List.mem_append_left _ member') written' belongs
    rw [repository] at renders'
    rw [held, held', renders.unique renders' under.graph_le under'.graph_le]
  · rw [filed.unchanged_elsewhere place,
      again.unchanged_elsewhere (mt places.mem_iff.mp place)]

end Returned

/-- A generation that returns leaves in the file of every module the text that the include graph
gives it, and every other file as it was, if no two modules share a file and none of them is a
document. Other orders of the roots, with or without repetitions, leave the same files and list the
same modules. -/
theorem outputs_fixed_by_documents (generator : Generator) (start after : Generation)
    (roots : List String) (paths : List Path) (nothing : start.registry = [])
    (unlisted : start.extra = []) (made : generator.generate roots start = .ok paths after)
    (distinct : (generator.places after).Nodup)
    (apart : ∀ name ∈ after.names, ∀ location ∈ generator.places after,
      after.files.locate (generator.input.below name) ≠ .ok location) :
    (∀ name loaded, after.registered? name = some loaded →
        start.repository? generator.input name = some loaded.repository ∧
        ∀ space ∈ loaded.repository.namespaces, ∃ content,
          after.moduleBytes? loaded.repository space = some content ∧
          after.files.read (generator.modulePath space.name) = .ok content) ∧
      (∀ location, location ∉ generator.places after →
        after.files.at? location = start.files.at? location) ∧
      ∀ others, (∀ root, root ∈ others ↔ root ∈ roots) →
        ∃ last, generator.generate others start = .ok last.extra last ∧ last.extra.Perm paths ∧
          ∀ location, last.files.at? location = after.files.at? location := by
  obtain ⟨rfl, registered, done, filed⟩ := filed_of_returned nothing unlisted made
  refine ⟨fun name loaded known => ?_, fun location => filed.unchanged_elsewhere,
    fun others same => ?_⟩
  · have drawn := filed.accounted.sound.under.drawn name loaded known
    refine ⟨drawn, fun space listed => ?_⟩
    obtain ⟨frame, finished, rfl⟩ :=
      filed.accounted.finished (Run.registered_iff.mp (Option.isSome_of_eq_some known))
    rw [filed.accounted.drawn frame finished] at drawn
    have repository := Option.some.inj drawn
    rw [← repository] at listed ⊢
    exact filed.read_written distinct (List.mem_append_left _ finished)
      ((filed.accounted.written_iff finished).mpr listed)
  -- What has been generated is all that the other roots need, so that they are generated too, and
  -- from the same documents.
  · have provided := (filed.provided registered apart).of_same same
    obtain ⟨last, made'⟩ := provided.returns nothing unlisted
    obtain ⟨_, registered', ended, again⟩ := filed_of_returned nothing unlisted made'
    have names : last.names.Perm after.names := by
      refine (List.perm_ext_iff_of_nodup again.accounted.kept.distinct
        filed.accounted.kept.distinct).mpr fun name => ?_
      rw [again.accounted.wanted_iff registered', filed.accounted.wanted_iff registered]
      exact ⟨(·.of_same same), (·.of_same fun root => (same root).symm)⟩
    refine ⟨last, made', ?_, filed.same_files again names distinct⟩
    exact again.accounted.listed_perm.trans
      ((names.flatMap_right _).trans filed.accounted.listed_perm.symm)

theorem outputs_fixed_by_documents_reordered :
    ∃ paths after last,
      shelfGenerator.generate ["A-1.gir", "B-1.gir"] (shelf [("A", ["B"]), ("B", [])]) =
        .ok paths after ∧
      shelfGenerator.generate ["B-1.gir", "A-1.gir", "B-1.gir"]
        (shelf [("A", ["B"]), ("B", [])]) = .ok last.extra last ∧
      last.extra.Perm paths ∧ ∀ location, last.files.at? location = after.files.at? location := by
  have checked : ∃ result ∈ (shelfGenerator.generate ["A-1.gir", "B-1.gir"]).returned?
        (shelf [("A", ["B"]), ("B", [])]),
      (shelfGenerator.places result.2).Nodup ∧
        ∀ name ∈ result.2.names, ∀ location ∈ shelfGenerator.places result.2,
          result.2.files.locate (shelfGenerator.input.below name) ≠ .ok location := by
    decide +kernel
  obtain ⟨⟨paths, after⟩, returned, distinct, apart⟩ := checked
  have made := Action.of_returned returned
  obtain ⟨_, _, reordered⟩ := outputs_fixed_by_documents shelfGenerator
    (shelf [("A", ["B"]), ("B", [])]) after ["A-1.gir", "B-1.gir"] paths rfl rfl made distinct apart
  obtain ⟨last, made', same, files⟩ := reordered ["B-1.gir", "A-1.gir", "B-1.gir"] (by simp)
  exact ⟨paths, after, last, made, made', same, files⟩

end Generator

end ZigBindings
