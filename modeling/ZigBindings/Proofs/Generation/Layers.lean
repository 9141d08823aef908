import Mathlib.Data.List.Basic
import ZigBindings.Proofs.Generation.Account
import ZigBindings.Proofs.Generation.Rendered

/-!
# What files hold during a generation

The text of a module goes over what is in its file. Where modules share a file, one may be generated
while another is open, and texts come to lie one over the other, each that of a repository which
leads to the one below. At every moment a file holds such layers, or is what it was at the start.
-/

namespace ZigBindings

namespace Files

variable {files : Files} {path : Path} {location : Location} {old : List UInt8}

theorem overlay_nil (content : List UInt8) : overlay content [] = content := by
  simp [overlay]

theorem write_over_file (content : List UInt8) (located : files.locate path = .ok location)
    (held : files.at? location = some (.file old)) :
    files.writeOver path content = files.put location (.file (overlay content old)) := by
  simp [writeOver, located, held]

end Files

namespace Generator

def Belongs (generator : Generator) (files : Files) (location : Location)
    (space : Namespace) : Prop :=
  files.locate (generator.modulePath space.name) = .ok location

def OpenAt (generator : Generator) (files : Files) (location : Location) (active : List Frame)
    (name : String) : Prop :=
  ∃ frame ∈ active, frame.name = name ∧
    ∃ space ∈ frame.opened, generator.Belongs files location space

def Wrote (frames : List Frame) (name : String) (repository : Repository)
    (space : Namespace) : Prop :=
  ∃ frame ∈ frames, frame.name = name ∧ frame.repository = repository ∧ space ∈ frame.written

def Frame.begun (frame : Frame) : List Namespace :=
  frame.written ++ frame.opened.toList

/-- A frame whose modules have been opened in the order of its namespaces, each in a place of its
own or another's, but never that of a directory. -/
structure Frame.Laid (generator : Generator) (start : Generation) (frame : Frame) : Prop where
  aligned : frame.begun <+: frame.repository.namespaces
  placed : ∀ space ∈ frame.begun, ∃ location, generator.Belongs start.files location space ∧
    start.files.at? location ≠ some .directory

/-- A text that was written, with the namespace and the repository that it belongs to. -/
structure Layer where
  name : String
  repository : Repository
  space : Namespace
  content : List UInt8

/-- What is left of texts that were written one over the other, the last of them first. -/
def layered (layers : List Layer) : List UInt8 :=
  layers.foldr (fun layer below => Files.overlay layer.content below) []

structure Layer.Written (generator : Generator) (start : Generation) (moment : Moment)
    (location : Location) (layer : Layer) : Prop where
  wrote : Wrote (moment.done ++ moment.active) layer.name layer.repository layer.space
  belongs : generator.Belongs start.files location layer.space
  renders : moment.run.Renders layer.repository layer.space layer.content

/-- A file that has been opened. Every repository whose module is open there leads to that of the
uppermost layer. -/
structure Layered (generator : Generator) (start : Generation) (moment : Moment)
    (location : Location) (layers : List Layer) : Prop where
  held : moment.run.files.at? location = some (.file (layered layers))
  written : ∀ layer ∈ layers, layer.Written generator start moment location
  nested : layers.IsChain fun upper lower =>
    (start.links generator.input).Reaches upper.name lower.name
  above : ∀ name, generator.OpenAt start.files location moment.active name →
    ∀ layer ∈ layers.head?, (start.links generator.input).Reaches name layer.name
  used : layers = [] → ∃ name, generator.OpenAt start.files location moment.active name

structure Untouched (generator : Generator) (start : Generation) (moment : Moment)
    (location : Location) : Prop where
  same : moment.run.files.at? location = start.files.at? location
  unopened : ∀ name, ¬generator.OpenAt start.files location moment.active name
  unwritten : ∀ name repository space, Wrote (moment.done ++ moment.active) name repository space →
    ¬generator.Belongs start.files location space

def Contents (generator : Generator) (start : Generation) (moment : Moment) : Prop :=
  ∀ location, Untouched generator start moment location ∨
    ∃ layers, Layered generator start moment location layers

structure StillAt (generator : Generator) (files : Files) (location : Location)
    (moment later : Moment) : Prop where
  held : later.run.files.at? location = moment.run.files.at? location
  grown : moment.run.Grown later.run
  opened : ∀ name, generator.OpenAt files location later.active name ↔
    generator.OpenAt files location moment.active name
  wrote : ∀ name repository space, generator.Belongs files location space →
    (Wrote (later.done ++ later.active) name repository space ↔
      Wrote (moment.done ++ moment.active) name repository space)

variable {generator : Generator} {start run after : Generation} {roots : List String}
  {moment later : Moment} {location : Location} {layers : List Layer} {outer done : List Frame}
  {frame : Frame} {space : Namespace}

theorem Belongs.unique {files : Files} {other : Location}
    (belongs : generator.Belongs files location space)
    (again : generator.Belongs files other space) : location = other := by
  unfold Belongs at belongs again
  rw [belongs] at again
  cases again
  rfl

section Laid

theorem Step.laid (step : generator.Step (start.links generator.input) roots moment later)
    (accounted : Accounted generator start roots moment)
    (laid : ∀ frame ∈ moment.done ++ moment.active, frame.Laid generator start) :
    ∀ frame ∈ later.done ++ later.active, frame.Laid generator start := by
  intro other member
  cases step with
  | note => exact laid other member
  | load =>
      rcases mem_of_loaded member with old | rfl
      · exact laid other old
      · exact ⟨by simp [Frame.begun], by simp [Frame.begun]⟩
  | @open_ run after outer done frame space rest idle next created =>
      rcases mem_of_replaced member with old | rfl
      · exact laid other old
      · obtain ⟨_, placed⟩ := laid frame (by simp)
        obtain ⟨place, located, plain, _⟩ := create_ok created
        have under := accounted.sound.under.files
        constructor
        · exact ⟨rest, by simp [Frame.begun, Frame.open_, next]⟩
        · intro other begun
          rcases List.mem_append.mp begun with written | opened
          · exact placed other (List.mem_append_left _ written)
          · have same : other = space := by simpa [Frame.open_] using opened
            rw [same]
            exact ⟨place, under.locate_iff.mp located,
              fun directory => plain ((under.directory_iff place).mpr directory)⟩
  | @write run outer done frame space order seen opened course known blank =>
      rcases mem_of_replaced member with old | rfl
      · exact laid other old
      · have begun : (frame.write space).begun = frame.begun := by
          simp [Frame.begun, Frame.write, opened]
        obtain ⟨aligned, placed⟩ := laid frame (by simp)
        exact ⟨begun ▸ aligned, begun ▸ placed⟩
  | finish => exact laid other (mem_finished_iff.mp member)

end Laid

section Still

theorem StillAt.untouched (still : StillAt generator start.files location moment later)
    (untouched : Untouched generator start moment location) :
    Untouched generator start later location := by
  obtain ⟨same, unopened, unwritten⟩ := untouched
  refine ⟨still.held.trans same, fun name => ?_, fun name repository space wrote belongs => ?_⟩
  · rw [still.opened]
    exact unopened name
  · exact unwritten name repository space ((still.wrote _ _ _ belongs).mp wrote) belongs

theorem StillAt.layered (still : StillAt generator start.files location moment later)
    (layered : Layered generator start moment location layers) :
    Layered generator start later location layers := by
  obtain ⟨held, written, nested, above, used⟩ := layered
  refine ⟨still.held.trans held, fun layer member => ?_, nested, fun name => ?_, ?_⟩
  · obtain ⟨wrote, belongs, renders⟩ := written layer member
    exact ⟨(still.wrote _ _ _ belongs).mpr wrote, belongs, renders.grown still.grown⟩
  · rw [still.opened]
    exact above name
  · simp only [still.opened]
    exact used

theorem Contents.still (contents : Contents generator start moment)
    (still : StillAt generator start.files location moment later) :
    Untouched generator start later location ∨
      ∃ layers, Layered generator start later location layers := by
  rcases contents location with untouched | ⟨layers, layered⟩
  · exact .inl (still.untouched untouched)
  · exact .inr ⟨layers, still.layered layered⟩

end Still

section Frames

theorem open_at_concat {files : Files} {name : String} :
    generator.OpenAt files location (outer ++ [frame]) name ↔
      generator.OpenAt files location outer name ∨
        (frame.name = name ∧ ∃ space ∈ frame.opened, generator.Belongs files location space) := by
  simp [OpenAt, or_and_right, exists_or]

theorem wrote_concat {name : String} {repository : Repository} :
    Wrote (outer ++ [frame]) name repository space ↔
      Wrote outer name repository space ∨
        (frame.name = name ∧ frame.repository = repository ∧ space ∈ frame.written) := by
  simp [Wrote, or_and_right, exists_or]

theorem wrote_replace {name : String} {repository : Repository} (other : Frame)
    (sameName : other.name = frame.name) (sameRepository : other.repository = frame.repository)
    (written : space ∈ other.written ↔ space ∈ frame.written) :
    Wrote (done ++ (outer ++ [other])) name repository space ↔
      Wrote (done ++ (outer ++ [frame])) name repository space := by
  rw [← List.append_assoc, ← List.append_assoc, wrote_concat, wrote_concat, sameName,
    sameRepository, written]

end Frames

section Contents

theorem layered_of_open (held : run.files.at? location = some (.file []))
    (belongs : generator.Belongs start.files location space) :
    Layered generator start ⟨run, outer ++ [frame.open_ space], done⟩ location [] := by
  refine ⟨held, by simp, .nil, by simp, fun _ => ⟨frame.name, ?_⟩⟩
  exact open_at_concat.mpr (.inr ⟨rfl, space, rfl, belongs⟩)

/-- A text that is written becomes the uppermost layer. What is open in the file belongs to
repositories that wait for the one just written. -/
theorem Layered.write
    (layered : Layered generator start ⟨run, outer ++ [frame], done⟩ location layers)
    (accounted : Accounted generator start roots ⟨run, outer ++ [frame], done⟩)
    (opened : frame.opened = some space)
    (belongs : generator.Belongs start.files location space) {content : List UInt8}
    (renders : run.Renders frame.repository space content) (grown : run.Grown after)
    (held : after.files.at? location =
      some (.file (Files.overlay content (Generator.layered layers)))) :
    Layered generator start ⟨after, outer ++ [frame.write space], done⟩ location
      (⟨frame.name, frame.repository, space, content⟩ :: layers) := by
  constructor
  · exact held
  · intro layer member
    rcases List.mem_cons.mp member with rfl | old
    · refine ⟨?_, belongs, renders.grown grown⟩
      dsimp only
      rw [← List.append_assoc]
      exact wrote_concat.mpr (.inr ⟨rfl, rfl, by simp [Frame.write]⟩)
    · obtain ⟨wrote, belongs, renders⟩ := layered.written layer old
      refine ⟨?_, belongs, renders.grown grown⟩
      dsimp only at wrote ⊢
      rw [← List.append_assoc] at wrote ⊢
      refine wrote_concat.mpr ((wrote_concat.mp wrote).imp_right ?_)
      rintro ⟨name, repository, written⟩
      exact ⟨name, repository, List.mem_append_left _ written⟩
  · refine List.isChain_cons.mpr ⟨layered.above frame.name ?_, layered.nested⟩
    exact open_at_concat.mpr (.inr ⟨rfl, space, opened, belongs⟩)
  · intro name isOpen layer head
    cases head
    -- What is still open here is a frame below in the tower.
    rcases open_at_concat.mp isOpen with ⟨other, waiting, rfl, _⟩ | ⟨_, _, absurd, _⟩
    · exact ((List.pairwise_append.mp accounted.stacked.tower).2.2 other waiting frame
        (by simp)).reaches
    · cases absurd
  · intro absurd
    cases absurd

theorem Contents.open_ {scope : String → Prop}
    (contents : Contents generator start ⟨run, outer ++ [frame], done⟩)
    (under : generator.Underway start scope run) (idle : frame.opened = none)
    (created : createModule (generator.modulePath space.name) run = .ok () after) :
    Contents generator start ⟨after, outer ++ [frame.open_ space], done⟩ := by
  intro location
  obtain ⟨place, located, plain, rfl⟩ := create_ok created
  have belongs := under.files.locate_iff.mp located
  by_cases here : location = place
  · subst here
    exact .inr ⟨[], layered_of_open (Files.at_put_same run.files plain) belongs⟩
  · refine contents.still ⟨Files.at_put_other run.files _ here, grown_of_registry rfl,
      fun name => ?_, fun name repository other _ => wrote_replace _ rfl rfl Iff.rfl⟩
    have elsewhere : ¬generator.Belongs start.files location space :=
      fun there => here (there.unique belongs)
    rw [open_at_concat, open_at_concat]
    simp [Frame.open_, idle, elsewhere]

theorem Contents.write (contents : Contents generator start ⟨run, outer ++ [frame], done⟩)
    (accounted : Accounted generator start roots ⟨run, outer ++ [frame], done⟩)
    (opened : frame.opened = some space) {place : Location}
    (belongs : generator.Belongs start.files place space) {text : String}
    (renders : run.Renders frame.repository space (Text.utf8Bytes text.toList))
    (records : List LogRecord) :
    Contents generator start ⟨writeModule (generator.modulePath space.name) text
      (run.note records), outer ++ [frame.write space], done⟩ := by
  intro location
  have grown := (grown_note run records).trans
    (grown_of_registry (write_registry (generator.modulePath space.name) text _))
  have isOpen : generator.OpenAt start.files place (outer ++ [frame]) frame.name :=
    open_at_concat.mpr (.inr ⟨rfl, space, opened, belongs⟩)
  obtain untouched | ⟨layers, layered⟩ := contents place
  · exact absurd isOpen (untouched.unopened frame.name)
  have located := accounted.sound.under.files.locate_iff.mpr belongs
  have overwritten := Files.write_over_file (Text.utf8Bytes text.toList) located layered.held
  by_cases here : location = place
  · subst here
    refine .inr ⟨_, layered.write accounted opened belongs renders grown ?_⟩
    rw [write_files, Run.note, overwritten]
    exact Files.at_put_same run.files (by rw [layered.held]; simp)
  · have elsewhere : ¬generator.Belongs start.files location space :=
      fun there => here (there.unique belongs)
    refine contents.still ⟨?_, grown, fun name => ?_, fun name repository other there => ?_⟩
    · rw [write_files, Run.note, overwritten]
      exact Files.at_put_other run.files _ here
    · rw [open_at_concat, open_at_concat]
      simp [Frame.write, opened, elsewhere]
    · refine wrote_replace _ rfl rfl ⟨fun written => ?_, List.mem_append_left _⟩
      refine (List.mem_append.mp written).resolve_right fun last => ?_
      exact elsewhere (List.mem_singleton.mp last ▸ there)

theorem Step.contents (step : generator.Step (start.links generator.input) roots moment later)
    (accounted : Accounted generator start roots moment)
    (laid : ∀ frame ∈ moment.done ++ moment.active, frame.Laid generator start)
    (contents : Contents generator start moment) : Contents generator start later := by
  have grown := step.grown
  cases step with
  | note => exact fun _ => contents.still ⟨rfl, grown, fun _ => Iff.rfl, fun _ _ _ _ => Iff.rfl⟩
  | load =>
      intro location
      refine contents.still ⟨?_, grown, fun name => ?_, fun name repository space _ => ?_⟩
      · unfold Run.enlist
        rw [Run.register_files]
        rfl
      · rw [open_at_concat]
        simp
      · rw [← List.append_assoc, wrote_concat]
        simp
  | open_ idle _ created => exact contents.open_ accounted.sound.under idle created
  | @write run outer done frame space order seen opened course known blank =>
      have begun : space ∈ frame.begun := by simp [Frame.begun, opened]
      obtain ⟨place, belongs, _⟩ := (laid frame (by simp)).placed space begun
      have renders := Run.renders_of_course course known accounted.sound.under.graph_le space
      exact contents.write accounted opened belongs renders _
  | finish idle _ =>
      intro location
      refine contents.still ⟨rfl, grown, fun name => ?_, fun name repository space _ => ?_⟩
      · rw [open_at_concat]
        simp [idle]
      · exact exists_congr fun _ => and_congr_left fun _ => mem_finished_iff

/-- What holds of the files at a moment of a generation that has started with nothing registered. -/
structure Filed (generator : Generator) (start : Generation) (roots : List String)
    (moment : Moment) : Prop where
  accounted : Accounted generator start roots moment
  laid : ∀ frame ∈ moment.done ++ moment.active, frame.Laid generator start
  contents : Contents generator start moment

theorem filed_start (generator : Generator) (roots : List String) (nothing : start.registry = [])
    (unlisted : start.extra = []) : Filed generator start roots ⟨start, [], []⟩ := by
  refine ⟨accounted_start generator roots nothing unlisted, by simp, fun location => .inl ?_⟩
  exact ⟨rfl, by simp [OpenAt], by simp [Wrote]⟩

theorem Steps.filed (steps : generator.Steps (start.links generator.input) roots moment later)
    (filed : Filed generator start roots moment) : Filed generator start roots later := by
  induction steps with
  | refl => exact filed
  | tail _ step ih =>
      exact ⟨step.accounted ih.accounted, step.laid ih.accounted ih.laid,
        step.contents ih.accounted ih.laid ih.contents⟩

end Contents

end Generator

end ZigBindings
