import Mathlib.Data.List.Nodup
import ZigBindings.Proofs.Generation.Layers
import ZigBindings.Proofs.Generation.Order

/-!
# Modules in files of their own

Where no two modules of the registered repositories share a file, there are no layers. At every
moment the file of a module that has been written holds its text, that of an open one is blank, and
any other file is what it was at the start.
-/

namespace ZigBindings

theorem pairwise_either {α : Type} {items : List α} {related : α → α → Prop}
    (pairwise : items.Pairwise related) {one other : α} (first : one ∈ items)
    (second : other ∈ items) (different : one ≠ other) : related one other ∨ related other one :=
  (pair_sublist first second different).imp
    (fun earlier => List.pairwise_iff_forall_sublist.mp pairwise earlier)
    (fun later => List.pairwise_iff_forall_sublist.mp pairwise later)

namespace Files

variable {files : Files} {path : Path} {location : Location}

def located? (files : Files) (path : Path) : Option Location :=
  (files.locate path).toOption

theorem located_iff : files.located? path = some location ↔ files.locate path = .ok location := by
  unfold located?
  cases files.locate path <;> simp [Except.toOption]

end Files

namespace Generator

def locationsOf (generator : Generator) (run : Generation) (name : String) : List Location :=
  match run.repository? generator.input name with
  | some repository =>
    repository.namespaces.filterMap fun space =>
      run.files.located? (generator.modulePath space.name)
  | none => []

def places (generator : Generator) (run : Generation) : List Location :=
  run.names.flatMap (generator.locationsOf run)

variable {generator : Generator} {start run : Generation} {roots : List String}
  {scope : String → Prop} {active done : List Frame} {frame other : Frame}
  {space more : Namespace} {location : Location} {name : String} {repository : Repository}

theorem locations_of_held (held : run.repository? generator.input name = some repository) :
    generator.locationsOf run name = repository.namespaces.filterMap fun space =>
      run.files.located? (generator.modulePath space.name) := by
  simp [locationsOf, held]

theorem mem_locations_iff (held : run.repository? generator.input name = some repository) :
    location ∈ generator.locationsOf run name ↔
      ∃ space ∈ repository.namespaces, generator.Belongs run.files location space := by
  rw [locations_of_held held, List.mem_filterMap]
  exact exists_congr fun _ => and_congr_right fun _ => Files.located_iff

section Underway

theorem Underway.located (under : generator.Underway start scope run) (path : Path) :
    run.files.located? path = start.files.located? path := by
  refine Option.ext fun location => ?_
  rw [Files.located_iff, Files.located_iff]
  exact under.files.locate_iff

theorem Underway.locations (under : generator.Underway start scope run)
    (registered : name ∈ run.names) :
    generator.locationsOf run name = generator.locationsOf start name := by
  obtain ⟨loaded, known⟩ := Option.isSome_iff_exists.mp (Run.registered_iff.mpr registered)
  rw [locations_of_held (Run.repository_of_registered known),
    locations_of_held (under.drawn name loaded known)]
  simp only [under.located]

theorem Underway.places (under : generator.Underway start scope run) :
    generator.places run = run.names.flatMap (generator.locationsOf start) :=
  List.flatMap_congr fun _ registered => under.locations registered

end Underway

section Distinct

theorem Accounted.held (accounted : Accounted generator start roots ⟨run, active, done⟩)
    (member : frame ∈ done ++ active) :
    start.repository? generator.input frame.name = some frame.repository := by
  rcases List.mem_append.mp member with finished | working
  · exact accounted.drawn frame finished
  · exact (accounted.sound.framed frame working).2.1

theorem Accounted.registered (accounted : Accounted generator start roots ⟨run, active, done⟩)
    (member : frame ∈ done ++ active) : frame.name ∈ run.names :=
  accounted.kept.names.mem_iff.mpr (List.mem_map_of_mem member)

theorem Accounted.eq_of_name (accounted : Accounted generator start roots ⟨run, active, done⟩)
    (member : frame ∈ done ++ active) (again : other ∈ done ++ active)
    (same : frame.name = other.name) : frame = other :=
  List.inj_on_of_nodup_map (accounted.kept.names.nodup_iff.mp accounted.kept.distinct) member again
    same

theorem Accounted.loaded (accounted : Accounted generator start roots ⟨run, active, done⟩)
    (member : frame ∈ done ++ active) :
    ∃ loaded, run.registered? frame.name = some loaded ∧ loaded.repository = frame.repository := by
  obtain ⟨loaded, known⟩ := Option.isSome_iff_exists.mp
    (Run.registered_iff.mpr (accounted.registered member))
  have drawn := accounted.sound.under.drawn frame.name loaded known
  rw [accounted.held member] at drawn
  exact ⟨loaded, known, (Option.some.inj drawn).symm⟩

theorem Accounted.listed_iff (accounted : Accounted generator start roots ⟨run, active, done⟩)
    {path : Path} :
    path ∈ run.extra ↔ ∃ frame ∈ done ++ active, ∃ space ∈ frame.written,
      generator.modulePath space.name = path := by
  have listed : run.extra =
      (done ++ active).flatMap fun frame => generator.modulePaths frame.written :=
    accounted.listed
  rw [listed, List.mem_flatMap]
  simp only [modulePaths, List.mem_map]

variable (filed : Filed generator start roots ⟨run, active, done⟩)

include filed

theorem Filed.mem_locations (member : frame ∈ done ++ active) (begun : space ∈ frame.begun)
    (belongs : generator.Belongs start.files location space) :
    location ∈ generator.locationsOf start frame.name :=
  (mem_locations_iff (filed.accounted.held member)).mpr
    ⟨space, (filed.laid frame member).aligned.subset begun, belongs⟩

variable (distinct : (generator.places run).Nodup)

include distinct

theorem Filed.eq_of_shared (member : frame ∈ done ++ active) (again : other ∈ done ++ active)
    (begun : space ∈ frame.begun) (begun' : more ∈ other.begun)
    (belongs : generator.Belongs start.files location space)
    (belongs' : generator.Belongs start.files location more) : frame = other := by
  refine filed.accounted.eq_of_name member again ?_
  rw [filed.accounted.sound.under.places] at distinct
  by_contra different
  have shared := filed.mem_locations member begun belongs
  have shared' := filed.mem_locations again begun' belongs'
  rcases pairwise_either (List.nodup_flatMap.mp distinct).2 (filed.accounted.registered member)
    (filed.accounted.registered again) different with disjoint | disjoint
  · exact disjoint shared shared'
  · exact disjoint shared' shared

theorem Filed.begun_apart (member : frame ∈ done ++ active) :
    frame.begun.Pairwise fun earlier later => ∀ location,
      generator.Belongs start.files location earlier →
        ¬generator.Belongs start.files location later := by
  rw [filed.accounted.sound.under.places] at distinct
  have apart := (List.nodup_flatMap.mp distinct).1 frame.name (filed.accounted.registered member)
  rw [locations_of_held (filed.accounted.held member), List.Nodup, List.pairwise_filterMap] at apart
  refine (apart.sublist (filed.laid frame member).aligned.sublist).imp ?_
  intro earlier later different location belongs belongs'
  exact different location (Files.located_iff.mpr belongs) location (Files.located_iff.mpr belongs')
    rfl

theorem Filed.space_of_shared (member : frame ∈ done ++ active) (begun : space ∈ frame.begun)
    (begun' : more ∈ frame.begun) (belongs : generator.Belongs start.files location space)
    (belongs' : generator.Belongs start.files location more) : space = more := by
  by_contra different
  rcases pairwise_either (filed.begun_apart distinct member) begun begun' different with
    apart | apart
  · exact apart location belongs belongs'
  · exact apart location belongs' belongs

theorem Filed.not_open (member : frame ∈ done ++ active) (written : space ∈ frame.written)
    (belongs : generator.Belongs start.files location space) (name : String) :
    ¬generator.OpenAt start.files location active name := by
  rintro ⟨other, working, rfl, more, opened, belongs'⟩
  have again : other ∈ done ++ active := List.mem_append_right _ working
  have begun : space ∈ frame.begun := List.mem_append_left _ written
  have begun' : more ∈ other.begun := List.mem_append_right _ (by simpa using opened)
  have same := filed.eq_of_shared distinct member again begun begun' belongs belongs'
  subst same
  have apart := (List.pairwise_append.mp (filed.begun_apart distinct member)).2.2
  exact apart space written more (by simpa using opened) location belongs belongs'

theorem Filed.single {layers : List Layer}
    (layered : Layered generator start ⟨run, active, done⟩ location layers)
    (member : frame ∈ done ++ active) (written : space ∈ frame.written)
    (belongs : generator.Belongs start.files location space) :
    ∃ content, run.Renders frame.repository space content ∧
      run.files.at? location = some (.file content) := by
  have own : ∀ layer ∈ layers,
      layer.name = frame.name ∧ layer.repository = frame.repository ∧ layer.space = space := by
    intro layer isLayer
    obtain ⟨⟨other, again, name, repository, written'⟩, belongs', _⟩ :=
      layered.written layer isLayer
    have begun : space ∈ frame.begun := List.mem_append_left _ written
    have begun' : layer.space ∈ other.begun := List.mem_append_left _ written'
    have same := filed.eq_of_shared distinct member again begun begun' belongs belongs'
    subst same
    exact ⟨name.symm, repository.symm,
      (filed.space_of_shared distinct member begun begun' belongs belongs').symm⟩
  obtain ⟨held, rendered, nested, _, used⟩ := layered
  match layers with
  | [] =>
      obtain ⟨name, isOpen⟩ := used rfl
      exact absurd isOpen (filed.not_open distinct member written belongs name)
  | [layer] =>
      obtain ⟨_, repository, space⟩ := own layer (by simp)
      obtain ⟨_, _, renders⟩ := rendered layer (by simp)
      rw [repository, space] at renders
      refine ⟨layer.content, renders, ?_⟩
      rw [held]
      simp [Generator.layered, Files.overlay_nil]
  -- Two layers are of the same repository, which would lead to itself; but what has written a
  -- module leads to no cycle.
  | upper :: lower :: rest =>
      have around : (start.links generator.input).Reaches upper.name lower.name :=
        (List.isChain_cons_cons.mp nested).1
      rw [(own upper (by simp)).1, (own lower (by simp)).1] at around
      have straight := filed.accounted.stacked.settled frame member
        (List.ne_nil_of_mem written) frame.name around
      exact absurd around straight.2

theorem Filed.renders_at (member : frame ∈ done ++ active) (written : space ∈ frame.written)
    (belongs : generator.Belongs start.files location space) :
    ∃ content, run.Renders frame.repository space content ∧
      run.files.at? location = some (.file content) := by
  rcases filed.contents location with untouched | ⟨layers, layered⟩
  · exact absurd belongs (untouched.unwritten frame.name frame.repository space
      ⟨frame, member, rfl, rfl, written⟩)
  · exact filed.single distinct layered member written belongs

theorem Filed.read_written (member : frame ∈ done ++ active) (written : space ∈ frame.written) :
    ∃ content, run.moduleBytes? frame.repository space = some content ∧
      run.files.read (generator.modulePath space.name) = .ok content := by
  have begun : space ∈ frame.begun := List.mem_append_left _ written
  obtain ⟨location, belongs, _⟩ := (filed.laid frame member).placed space begun
  obtain ⟨content, renders, held⟩ := filed.renders_at distinct member written belongs
  refine ⟨content, renders.bytes, Files.read_eq_ok_iff.mpr ⟨location, ?_, held⟩⟩
  exact filed.accounted.sound.under.files.locate_iff.mpr belongs

theorem Filed.read_opened (working : frame ∈ active) (opened : space ∈ frame.opened) :
    run.files.read (generator.modulePath space.name) = .ok [] := by
  have member : frame ∈ done ++ active := List.mem_append_right _ working
  have begun : space ∈ frame.begun := List.mem_append_right _ (by simpa using opened)
  obtain ⟨location, belongs, _⟩ := (filed.laid frame member).placed space begun
  have isOpen : generator.OpenAt start.files location active frame.name :=
    ⟨frame, working, rfl, space, opened, belongs⟩
  rcases filed.contents location with untouched | ⟨layers, layered⟩
  · exact absurd isOpen (untouched.unopened frame.name)
  · have nothing : layers = [] := by
      by_contra some
      obtain ⟨layer, isLayer⟩ := List.exists_mem_of_ne_nil layers some
      obtain ⟨⟨other, again, _, _, written⟩, belongs', _⟩ := layered.written layer isLayer
      exact filed.not_open distinct again written belongs' frame.name isOpen
    have held := layered.held
    rw [nothing] at held
    refine Files.read_eq_ok_iff.mpr ⟨location, ?_, held⟩
    exact filed.accounted.sound.under.files.locate_iff.mpr belongs

omit distinct in
theorem Filed.unchanged (elsewhere : ∀ frame ∈ done ++ active, ∀ space ∈ frame.begun,
      ¬generator.Belongs start.files location space) :
    run.files.at? location = start.files.at? location := by
  rcases filed.contents location with untouched | ⟨layers, layered⟩
  · exact untouched.same
  · cases layers with
    | nil =>
        obtain ⟨_, frame, working, _, space, opened, belongs⟩ := layered.used rfl
        refine absurd belongs (elsewhere frame (List.mem_append_right _ working) space ?_)
        exact List.mem_append_right _ (by simpa using opened)
    | cons layer rest =>
        obtain ⟨⟨frame, member, _, _, written⟩, belongs, _⟩ := layered.written layer (by simp)
        refine absurd belongs (elsewhere frame member layer.space ?_)
        exact List.mem_append_left _ written

end Distinct

end Generator

end ZigBindings
