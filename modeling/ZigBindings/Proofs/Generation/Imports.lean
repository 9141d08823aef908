import Mathlib.Data.List.Basic
import ZigBindings.Proofs.Generation.Outputs

/-!
# What generated modules import

A generation that returns has generated all that the repositories of its modules lead to. So the
modules that a header imports for includes have been generated with it, as long as a document
declares the namespace that it is included for. The one import that stands for no include is that of
a module which nobody may have asked for.
-/

namespace ZigBindings

namespace Generator

variable {generator : Generator} {start run : Generation} {roots : List String}
  {done : List Frame} {frame : Frame} {entry : Include}

theorem Accounted.met_registered (accounted : Accounted generator start roots ⟨run, [], done⟩)
    (finished : frame ∈ done) (some : frame.written ≠ []) {target : String}
    (met : run.graph.links.Met [] frame.repository.includes target) :
    (start.links generator.input).Reaches frame.name target ∧ target ∈ run.names ∧
      ¬run.graph.links.Reaches target target := by
  have le := accounted.sound.under.graph_le
  have found : start.links generator.input frame.name = .some frame.repository.includes := by
    simp [Run.links, accounted.drawn frame finished]
  have reaches : (start.links generator.input).Reaches frame.name target := by
    refine (Links.met_iff_reaches found).mp (met.mem_of_closed _ (fun entry listed outside => ?_) ?_)
    · exact .direct listed outside
    · rintro name target' met' ⟨⟨includes, same, listed⟩, outside⟩
      exact .onward met' ⟨⟨includes, le name includes same, listed⟩, outside⟩
  obtain ⟨member, straight⟩ := accounted.stacked.settled frame (by simp [finished]) some target reaches
  refine ⟨reaches, ?_, fun around => straight (Links.reaches_mono le around)⟩
  exact accounted.names_perm.mem_iff.mpr member

/-- The header of a written module is made of imports of includes whose sources have been
registered, and of the one that its name implies. -/
theorem Accounted.header_taken (accounted : Accounted generator start roots ⟨run, [], done⟩)
    (finished : frame ∈ done) (some : frame.written ≠ []) (name : String) :
    ∃ order, run.graph.header? name frame.repository.includes =
        .some (headerLines name order) ∧
      ∀ entry ∈ order, entry.source ∈ run.names := by
  have total : ∀ source, run.graph.links.Met [] frame.repository.includes source →
      (run.graph.links source).isSome := by
    intro source met
    obtain ⟨_, registered, _⟩ := accounted.met_registered finished some met
    obtain ⟨loaded, known⟩ := Option.isSome_iff_exists.mp (Run.registered_iff.mpr registered)
    simp [Run.graph_links, known]
  obtain ⟨order, seen, ⟨course, _⟩ | ⟨cycle, course, _⟩⟩ := IncludeGraph.emit_recording_cases
    (Nat.le_refl run.graph.depth) { outer := [] } rfl total
  · refine ⟨order, IncludeGraph.header_of_course course name, fun entry member => ?_⟩
    have met := course.order_met (List.mem_map_of_mem member)
    exact (accounted.met_registered finished some met).2.1
  · obtain ⟨_, first, _, met, around⟩ := course.cycle_met
    exact absurd (Links.reaches_outside_nothing.mp around)
      (accounted.met_registered finished some met).2.2

theorem Accounted.import_listed (accounted : Accounted generator start roots ⟨run, [], done⟩)
    (registered : entry.source ∈ run.names)
    (declared : ∃ loaded, run.registered? entry.source = some loaded ∧
      ∃ space ∈ loaded.repository.namespaces, space.name = entry.name) :
    generator.modulePath entry.name ∈ run.extra := by
  obtain ⟨frame, finished, name⟩ := accounted.finished registered
  obtain ⟨loaded, known, space, listed, same⟩ := declared
  have member : frame ∈ done ++ [] := by simpa using finished
  obtain ⟨other, known', repository⟩ := accounted.loaded member
  rw [name, known] at known'
  cases known'
  rw [repository, ← accounted.written_iff finished] at listed
  exact accounted.listed_iff.mpr ⟨frame, member, space, listed, by rw [same]⟩

/-- Every module that a generation lists imports, for the includes that its repository leads to,
modules that are listed as well, as long as the document of an include declares a namespace of its
name. A namespace named `GLib` imports one module more, last of all, whatever has been generated.
The header is the one that is in the file of the module, if no two modules share a file. -/
theorem imported_modules_listed (generator : Generator) (start after : Generation)
    (roots : List String) (paths : List Path) (nothing : start.registry = [])
    (unlisted : start.extra = []) (made : generator.generate roots start = .ok paths after) :
    ∀ name loaded, after.registered? name = some loaded →
      ∀ space ∈ loaded.repository.namespaces, generator.modulePath space.name ∈ paths ∧
        ((generator.places after).Nodup → ∃ content,
          after.moduleBytes? loaded.repository space = some content ∧
          after.files.read (generator.modulePath space.name) = .ok content) ∧
        ∃ order : List Include,
          after.graph.header? space.name loaded.repository.includes =
            some (order.map (importLine ·.name) ++
              if space.name = "GLib" then [importLine "GObject"] else []) ∧
          ∀ entry ∈ order,
            (∀ document, start.files.document? generator.input entry.source = some document →
              ∃ declared ∈ document.namespaces, declared.name = entry.name) →
            generator.modulePath entry.name ∈ paths := by
  intro name loaded known space listed
  obtain ⟨rfl, registered, done, filed⟩ := filed_of_returned nothing unlisted made
  have accounted := filed.accounted
  obtain ⟨frame, finished, rfl⟩ :=
    accounted.finished (Run.registered_iff.mp (Option.isSome_of_eq_some known))
  have member : frame ∈ done ++ [] := by simpa using finished
  obtain ⟨other, known', repository⟩ := accounted.loaded member
  rw [known] at known'
  cases known'
  rw [repository] at listed ⊢
  have written : space ∈ frame.written := (accounted.written_iff finished).mpr listed
  refine ⟨accounted.listed_iff.mpr ⟨frame, member, space, written, rfl⟩,
    fun distinct => filed.read_written distinct member written, ?_⟩
  obtain ⟨order, header, taken⟩ :=
    accounted.header_taken finished (List.ne_nil_of_mem written) space.name
  refine ⟨order, ?_, fun entry member declares => ?_⟩
  · rw [header, headerLines]
    by_cases named : space.name = "GLib" <;> simp [Walk.impliedBy, named]
  -- An include was registered with what its document had held at the start.
  · obtain ⟨source, included⟩ :=
      Option.isSome_iff_exists.mp (Run.registered_iff.mpr (taken entry member))
    have drawn := accounted.sound.under.drawn entry.source source included
    rw [Run.repository_of_document (by simp [Run.registered?, nothing])] at drawn
    exact accounted.import_listed (taken entry member) ⟨source, included, declares _ drawn⟩

theorem imported_modules_listed_chained :
    ∃ paths after loaded space order,
      shelfGenerator.generate ["A-1.gir"] (shelf [("A", ["B"]), ("B", [])]) =
        .ok paths after ∧
      after.registered? "A-1.gir" = some loaded ∧ space ∈ loaded.repository.namespaces ∧
      shelfGenerator.modulePath space.name ∈ paths ∧
      after.graph.header? space.name loaded.repository.includes =
        some (order.map fun entry : Include => importLine entry.name) ∧ order ≠ [] ∧
      ∀ entry ∈ order,
        (∀ document, (shelf [("A", ["B"]), ("B", [])]).files.document?
            shelfGenerator.input entry.source = some document →
          ∃ declared ∈ document.namespaces, declared.name = entry.name) →
        shelfGenerator.modulePath entry.name ∈ paths := by
  have checked : ∃ result ∈ (shelfGenerator.generate ["A-1.gir"]).returned?
        (shelf [("A", ["B"]), ("B", [])]),
      ∃ loaded ∈ result.2.registered? "A-1.gir", ∃ space ∈ loaded.repository.namespaces,
        space.name = "A" ∧
        result.2.graph.header? space.name loaded.repository.includes ≠ some [] := by
    decide +kernel
  obtain ⟨⟨paths, after⟩, returned, loaded, known, space, listed, name, some⟩ := checked
  have made := Action.of_returned returned
  obtain ⟨written, _, order, header, taken⟩ := imported_modules_listed shelfGenerator
    (shelf [("A", ["B"]), ("B", [])]) after ["A-1.gir"] paths rfl rfl made
    "A-1.gir" loaded known space listed
  rw [name, if_neg (by decide), List.append_nil, ← name] at header
  refine ⟨paths, after, loaded, space, order, made, known, listed, written, header, ?_, taken⟩
  rintro rfl
  exact some header

/-- A module can import one that has not been generated: that of a namespace named `GLib` does, when
nothing asks for the module of `GObject`. -/
theorem implied_module_not_listed :
    ∃ paths after loaded space lines,
      shelfGenerator.generate ["GLib-1.gir"] (shelf [("GLib", [])]) = .ok paths after ∧
      (∀ entry ∈ (shelf [("GLib", [])]).files.entries, entry.2 ≠ .directory →
        entry.1 = ["in", "GLib-1.gir"]) ∧
      after.registered? "GLib-1.gir" = some loaded ∧ space ∈ loaded.repository.namespaces ∧
      space.name = "GLib" ∧
      after.graph.header? space.name loaded.repository.includes = some lines ∧
      importLine "GObject" ∈ lines ∧
      after.files.at? ["out", "glib.zig"] =
        some (.file (Text.utf8Bytes "const gobject = @import(\"gobject.zig\");\n\n".toList)) ∧
      ∀ path ∈ paths, path.components.getLast? ≠ some (moduleFileName "GObject") := by
  have checked : ∃ result ∈ (shelfGenerator.generate ["GLib-1.gir"]).returned?
        (shelf [("GLib", [])]),
      ∃ loaded ∈ result.2.registered? "GLib-1.gir",
      ∃ space ∈ loaded.repository.namespaces, space.name = "GLib" ∧
      ∃ lines ∈ result.2.graph.header? space.name loaded.repository.includes,
        importLine "GObject" ∈ lines ∧
        result.2.files.at? ["out", "glib.zig"] =
          some (.file (Text.utf8Bytes "const gobject = @import(\"gobject.zig\");\n\n".toList)) ∧
        ∀ path ∈ result.1, path.components.getLast? ≠ some (moduleFileName "GObject") := by
    decide +kernel
  obtain ⟨⟨paths, after⟩, returned, loaded, known, space, listed, name, lines, header, imported,
    text, missing⟩ := checked
  exact ⟨paths, after, loaded, space, lines, Action.of_returned returned, by decide +kernel, known,
    listed, name, header, imported, text, missing⟩

end Generator

end ZigBindings
