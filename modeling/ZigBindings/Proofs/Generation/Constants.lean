import ZigBindings.Proofs.Distinct
import ZigBindings.Proofs.Generation.Rendered
import ZigBindings.Proofs.Text.Case

/-!
# Constants of a header

Every line of a header binds a constant to a module. The includes are told apart by their sources,
the constants are the names of the includes in lower case. They are bound once each as long as no
two sources stand for one module and the namespace that uses `GObject` without including it does
not include it after all.
-/

namespace ZigBindings

open ZigBindings.Text

theorem length_module_file_name (name : String) :
    (moduleFileName name).toList.length = (lower name).toList.length + 4 := by
  have extension : (lowerAfter [] ".zig".toList).length = 4 := by decide +kernel
  simp only [moduleFileName, lower, String.toList_ofList, String.toList_append]
  rw [length_lower_after_append, extension]

/-- Whether a line imports a module under a constant. -/
def Binds (line constant : String) : Prop :=
  ∃ name, line = importLine name ∧ constant = lower name

def BindOnce (lines : List String) : Prop :=
  lines.Pairwise fun first second => ∀ constant, Binds first constant → ¬Binds second constant

/-- Two names with the same import line have the same lower case. The name of the file does not get
in the way: it is longer than the constant by its extension. -/
theorem lower_eq_of_import_line {first second : String}
    (same : importLine first = importLine second) : lower first = lower second := by
  have spelled (name : String) : (importLine name).toList = "const ".toList ++
      ((lower name).toList ++ (" = @import(\"".toList ++ (moduleFileName name).toList ++
        "\");".toList)) := by
    simp [importLine]
  have letters := congrArg String.toList same
  rw [spelled, spelled, List.append_cancel_left_eq] at letters
  have long := congrArg List.length letters
  simp only [List.length_append, length_module_file_name] at long
  exact String.toList_inj.mp (List.append_inj_left letters (by omega))

theorem binds_import_line_iff {name constant : String} :
    Binds (importLine name) constant ↔ constant = lower name := by
  constructor
  · rintro ⟨other, same, rfl⟩
    exact (lower_eq_of_import_line same).symm
  · rintro rfl
    exact ⟨name, rfl, rfl⟩

theorem bind_once_iff {names : List String} :
    BindOnce (names.map importLine) ↔ (names.map lower).Nodup := by
  unfold BindOnce List.Nodup
  rw [List.pairwise_map, List.pairwise_map]
  refine List.Pairwise.iff fun first second => ?_
  simp only [binds_import_line_iff, forall_eq]

namespace Links

/-- Whether an include is the first with its source that one meets from some includes. -/
def Takes (links : Links) (includes : List Include) (entry : Include) : Prop :=
  ∃ order, IsPreorder links [] includes order ∧ entry ∈ order

variable {links : Links} {includes order : List Include} {entry : Include} {seen : List String}

theorem takes_iff (course : Course links [] [] includes order seen .finished) :
    links.Takes includes entry ↔ entry ∈ order := by
  constructor
  · rintro ⟨other, preorder, member⟩
    rw [preorder.unique course.is_preorder] at member
    exact member
  · exact fun member => ⟨order, course.is_preorder, member⟩

end Links

/-- The constants of a header are bound once if and only if the includes that one meets first with
their sources have constants of their own, and none of them has that of `GObject` where it is
imported without being included. -/
theorem header_binds_once_iff {name : String} {order : List Include}
    (distinct : (sourcesOf order).Nodup) :
    BindOnce (Generator.headerLines name order) ↔
      (∀ first ∈ order, ∀ second ∈ order,
        lower first.name = lower second.name → first.source = second.source) ∧
      (name = "GLib" → ∀ entry ∈ order, lower entry.name ≠ "gobject") := by
  have lines : Generator.headerLines name order =
      (order.map (·.name) ++ Walk.impliedBy name).map importLine := by
    simp [Generator.headerLines]
  have object : lower "GObject" = "gobject" := by decide +kernel
  rw [lines, bind_once_iff, List.map_append, List.nodup_append, List.map_map]
  have own : (order.map (lower ∘ (·.name))).Nodup ↔ _ := nodup_map_iff distinct
  rw [own]
  by_cases named : name = "GLib"
  · simp [Walk.impliedBy, named, object]
  · simp [Walk.impliedBy, named]

/-- Where nothing that can be met is missing or leads back to itself, a header binds its constants
once each if and only if the includes that are met first with their sources have the same constant
only for the same source, and, for the one namespace that imports `GObject` in any case, none of
them is called so. -/
theorem constants_bound_once_unless_shared (graph : IncludeGraph) (includes : List Include)
    (name : String)
    (total : ∀ source, graph.links.Met [] includes source → (graph.links source).isSome)
    (acyclic : ∀ source, graph.links.Met [] includes source →
      ¬graph.links.Reaches source source) :
    ∃ lines, graph.header? name includes = some lines ∧
      (BindOnce lines ↔
        (∀ first second, graph.links.Takes includes first → graph.links.Takes includes second →
          lower first.name = lower second.name → first.source = second.source) ∧
        (name = "GLib" → ∀ entry, graph.links.Takes includes entry →
          lower entry.name ≠ "gobject")) := by
  obtain ⟨order, seen, ⟨course, _⟩ | ⟨cycle, course, _⟩⟩ :=
    IncludeGraph.emit_recording_cases (Nat.le_refl graph.depth) { outer := [] } rfl total
  · refine ⟨_, IncludeGraph.header_of_course course name, ?_⟩
    rw [header_binds_once_iff course.order_nodup]
    simp only [Links.takes_iff course]
    exact and_congr_left fun _ => ⟨fun shared first second member member' =>
      shared first member second member', fun shared first member second member' =>
      shared first second member member'⟩
  · obtain ⟨_, first, _, met, around⟩ := course.cycle_met
    exact absurd (Links.reaches_outside_nothing.mp around) (acyclic first met)

def diamondIncludes : IncludeGraph :=
  [("GLib-2.0.gir", []), ("GObject-2.0.gir", [⟨"GLib", "2.0"⟩]),
    ("Gio-2.0.gir", [⟨"GObject", "2.0"⟩, ⟨"GLib", "2.0"⟩])]

theorem constants_bound_once_unless_shared_diamond :
    ∃ lines, diamondIncludes.header? "Gtk" [⟨"Gio", "2.0"⟩, ⟨"GObject", "2.0"⟩] = some lines ∧
      BindOnce lines := by
  have course : Course diamondIncludes.links [] [] [⟨"Gio", "2.0"⟩, ⟨"GObject", "2.0"⟩]
      [⟨"Gio", "2.0"⟩, ⟨"GObject", "2.0"⟩, ⟨"GLib", "2.0"⟩]
      ["GLib-2.0.gir", "GObject-2.0.gir", "Gio-2.0.gir"] .finished :=
    .taken (by decide) (by decide) rfl
      (.taken (by decide) (by decide) rfl
        (.taken (by decide) (by decide) rfl .done .done) (.passed (by decide) .done))
      (.passed (by decide) .done)
  obtain ⟨lines, made, once⟩ := constants_bound_once_unless_shared diamondIncludes
    [⟨"Gio", "2.0"⟩, ⟨"GObject", "2.0"⟩] "Gtk"
    (fun _ met => IncludeGraph.total_of_rows (by decide) (by decide) met)
    (fun _ met around => course.no_cycle met (Links.reaches_outside_nothing.mpr around))
  refine ⟨lines, made, once.mpr ⟨fun first second taken taken' same => ?_, by simp⟩⟩
  rw [Links.takes_iff course] at taken taken'
  have apart : ∀ first ∈ ([⟨"Gio", "2.0"⟩, ⟨"GObject", "2.0"⟩, ⟨"GLib", "2.0"⟩] : List Include),
      ∀ second ∈ ([⟨"Gio", "2.0"⟩, ⟨"GObject", "2.0"⟩, ⟨"GLib", "2.0"⟩] : List Include),
        lower first.name = lower second.name → first.source = second.source := by
    decide +kernel
  exact apart first taken second taken' same

/-- Two versions of one repository, neither of which includes anything. -/
def versionedIncludes : IncludeGraph :=
  [("GObject-2.0.gir", []), ("GObject-3.0.gir", [])]

/-- Whether the header of a namespace binds a constant twice although nothing that can be met is
missing or leads back to itself. -/
def IncludeGraph.BindsTwice (graph : IncludeGraph) (name : String) (includes : List Include) :
    Prop :=
  (∀ source, graph.links.Met [] includes source →
    (graph.links source).isSome ∧ ¬graph.links.Reaches source source) ∧
  ∃ lines, graph.header? name includes = some lines ∧ ¬BindOnce lines

/-- A constant is bound twice where `GLib` includes `GObject`, and where a repository is included in
two versions. -/
theorem constants_bound_twice :
    versionedIncludes.BindsTwice "GLib" [⟨"GObject", "2.0"⟩] ∧
      versionedIncludes.BindsTwice "Gtk" [⟨"GObject", "2.0"⟩, ⟨"GObject", "3.0"⟩] := by
  have alone : ∀ source target, ¬versionedIncludes.links.Edge source target := by
    rintro source target ⟨includes, found, other, listed, _⟩
    have empty : ∀ row ∈ versionedIncludes, row.2 = [] := by decide
    obtain ⟨before, behind, split, _⟩ := List.lookup_eq_some_iff.mp found
    have nothing : includes = [] := empty (source, includes) (by simp [split])
    rw [nothing] at listed
    cases listed
  have twice : ¬BindOnce [importLine "GObject", importLine "GObject"] := by
    intro once
    simpa using (@bind_once_iff ["GObject", "GObject"]).mp once
  have bound (name : String) (includes : List Include)
      (there : ∀ entry ∈ includes, (versionedIncludes.links entry.source).isSome)
      (made : versionedIncludes.header? name includes =
        some [importLine "GObject", importLine "GObject"]) :
      versionedIncludes.BindsTwice name includes := by
    refine ⟨fun source met => ⟨IncludeGraph.total_of_rows (by decide) there met, fun around => ?_⟩,
      _, made, twice⟩
    obtain ⟨next, edge, _⟩ := Relation.TransGen.head'_iff.mp around
    exact alone source next edge
  exact ⟨bound "GLib" _ (by decide) (by decide +kernel),
    bound "Gtk" _ (by decide) (by decide +kernel)⟩

end ZigBindings
