import ZigBindings.Proofs.Generation.Rendered
import ZigBindings.Proofs.Zig.Pieces

/-!
# Prefixes are bound

A module uses what its namespace refers to under prefixes, and its header binds the modules of the
includes that can be met. Both are made without regard to each other. They fit together wherever
the names that are used are those of the namespace itself or of includes that can be met.
-/

namespace ZigBindings

open ZigBindings.Text

namespace Links

variable {links : Links} {includes : List Include} {entry : Include}

/-- The includes that one comes upon from a list of them: those in the list, and those of the
repositories that it leads to. -/
def Offers (links : Links) (includes : List Include) (entry : Include) : Prop :=
  entry ∈ includes ∨
    ∃ source inner, links.Met [] includes source ∧ links source = some inner ∧ entry ∈ inner

theorem Offers.met (offered : links.Offers includes entry) :
    links.Met [] includes entry.source := by
  rcases offered with listed | ⟨source, inner, met, found, listed⟩
  · exact .direct listed (by simp)
  · exact .onward met ⟨edge_of_links found listed, by simp⟩

theorem Offers.weaken {more : List Include} (offered : links.Offers includes entry)
    (larger : ∀ entry ∈ includes, entry ∈ more) : links.Offers more entry := by
  rcases offered with listed | ⟨source, inner, met, found, listed⟩
  · exact .inl (larger entry listed)
  · exact .inr ⟨source, inner, met.weaken (fun _ member => member) larger, found, listed⟩

theorem Offers.through {source : String} {inner : List Include}
    (offered : links.Offers inner entry) (met : links.Met [] includes source)
    (found : links source = some inner) : links.Offers includes entry := by
  rcases offered with listed | ⟨further, innermost, beyond, found', listed⟩
  · exact .inr ⟨source, inner, met, found, listed⟩
  · exact .inr ⟨further, innermost, met.through found beyond, found', listed⟩

/-- Whether a name is, in lower case, that of a namespace or of an include that one comes upon. -/
def Names (links : Links) (includes : List Include) (current name : String) : Prop :=
  lower name = lower current ∨
    ∃ entry, links.Offers includes entry ∧ lower entry.name = lower name

end Links

theorem IncludeGraph.listed_of_offered {graph : IncludeGraph} {includes : List Include}
    {entry : Include} (offered : graph.links.Offers includes entry) :
    entry ∈ includes ++ graph.flatMap Prod.snd := by
  rcases offered with listed | ⟨source, inner, _, found, listed⟩
  · exact List.mem_append_left _ listed
  · obtain ⟨before, behind, split, _⟩ := List.lookup_eq_some_iff.mp found
    refine List.mem_append_right _ (List.mem_flatMap.mpr ⟨(source, inner), ?_, listed⟩)
    simp [split]

theorem Course.order_offered {links : Links} {visiting seen after : List String}
    {includes order : List Include} {ending : Ending}
    (course : Course links visiting seen includes order after ending) {entry : Include}
    (taken : entry ∈ order) : links.Offers includes entry := by
  induction course with
  | done => cases taken
  | passed _ _ ih => exact (ih taken).weaken fun _ => List.mem_cons_of_mem _
  | closed => cases taken
  | refused =>
      rw [List.mem_singleton.mp taken]
      exact .inl (by simp)
  | broken _ _ found _ _ ih =>
      rcases List.mem_cons.mp taken with rfl | below
      · exact .inl (by simp)
      · exact (ih below).through (.direct (List.mem_cons_self) (by simp)) found
  | taken _ _ found _ _ ihInner ihOuter =>
      rcases List.mem_cons.mp taken with rfl | further
      · exact .inl (by simp)
      · rcases List.mem_append.mp further with below | later
        · exact (ihInner below).through (.direct (List.mem_cons_self) (by simp)) found
        · exact (ihOuter later).weaken fun _ => List.mem_cons_of_mem _

/-- Where includes of the same source have the same name, an include that one comes upon has its
line among those of what a finished walk takes up, whichever include of the source was taken up. -/
theorem Course.line_taken {links : Links} {seen : List String} {includes order : List Include}
    (course : Course links [] [] includes order seen .finished)
    (consistent : ∀ first second, links.Offers includes first → links.Offers includes second →
      first.source = second.source → first.name = second.name)
    {entry : Include} (offered : links.Offers includes entry) :
    importLine entry.name ∈ order.map (importLine ·.name) := by
  obtain ⟨other, taken, same⟩ := List.mem_map.mp (course.mem_order_iff.mpr offered.met)
  rw [← consistent other entry (course.order_offered taken) offered same]
  exact List.mem_map_of_mem taken

theorem prefix_text_cases (reference : Reference) (current : String) :
    reference.prefixText current = "" ∨
      ∃ name, reference.space? = some name ∧ lower name ≠ lower current ∧
        reference.prefixText current = lower name ++ "." := by
  unfold Reference.prefixText Zig.modulePrefix
  cases reference.space? with
  | none => exact .inl rfl
  | some name =>
      by_cases own : lower name = lower current
      · exact .inl (if_pos own)
      · exact .inr ⟨name, rfl, own, if_neg own⟩

theorem Reference.space_cases {reference : Reference} {space : String}
    (given : reference.space? = some space) :
    (∃ name ∈ reference.name?, name.space = some space) ∨
      reference.IsObject ∧ space = "gobject" := by
  cases reference with
  | parent name => exact .inl ⟨name, rfl, given⟩
  | signal => exact .inr ⟨trivial, (Option.some.inj given).symm⟩
  | simple type =>
      obtain ⟨name, spelling⟩ := type
      simp only [space?] at given
      cases pointer : Zig.untypedPointers.lookup (spelling.getD "") with
      | some text =>
          rw [pointer] at given
          cases given
      | none =>
          rw [pointer] at given
          cases name with
          | none => cases given
          | some name =>
              by_cases object : name.base = "GType"
              · simp only [Zig.resolvedName, if_pos object] at given
                exact .inr ⟨⟨name, rfl, object⟩, (Option.some.inj given).symm⟩
              · simp only [Zig.resolvedName, if_neg object] at given
                exact .inl ⟨name, rfl, given⟩

theorem object_line :
    importLine "GObject" =
      "const " ++ lower "gobject" ++ " = @import(\"" ++ moduleFileName "GObject" ++ "\");" := by
  have same : lower "GObject" = lower "gobject" := by decide +kernel
  rw [importLine, same]

/-- The declarations of a namespace are made of pieces, and the prefixes among these are of what
the namespace refers to, in order. Take a namespace whose qualified names are, in lower case,
qualified by its own name or by that of an include that can be met, and which is `GLib` if it uses
the object system without being it or meeting an include of it. Unless there is a cycle or a
repository is missing, every prefix among the pieces is bound by a line of the header. -/
theorem prefixes_bound (graph : IncludeGraph) (includes : List Include) (space : Namespace)
    (total : ∀ source, graph.links.Met [] includes source → (graph.links source).isSome)
    (acyclic : ∀ source, graph.links.Met [] includes source → ¬graph.links.Reaches source source)
    (consistent : ∀ first second, graph.links.Offers includes first →
      graph.links.Offers includes second → first.source = second.source →
      first.name = second.name)
    (qualified : ∀ reference ∈ space.references, ∀ name ∈ reference.name?,
      ∀ qualifier ∈ name.space, graph.links.Names includes space.name qualifier)
    (objects : (∃ reference ∈ space.references, reference.IsObject) →
      space.name = "GLib" ∨ graph.links.Names includes space.name "gobject") :
    (∀ current, { space with name := current }.lines = space.pieces.map (lineText current)) ∧
    space.pieces.flatMap lineReferences = space.references ∧
    ∃ lines, graph.header? space.name includes = some lines ∧
      ∀ line ∈ space.pieces, ∀ reference, Piece.qualifier reference ∈ line →
        reference.prefixText space.name ≠ "" →
        ∃ module file, reference.prefixText space.name = module ++ "." ∧
          "const " ++ module ++ " = @import(\"" ++ file ++ "\");" ∈ lines := by
  refine ⟨fun current => (space.made.lines current).symm, space.made.references, ?_⟩
  obtain ⟨order, seen, ⟨course, _⟩ | ⟨cycle, course, _⟩⟩ :=
    IncludeGraph.emit_recording_cases (Nat.le_refl graph.depth) { outer := [] } rfl total
  · refine ⟨_, IncludeGraph.header_of_course course space.name, ?_⟩
    -- What is named, and not the namespace itself, has been taken up under a name of its own.
    have bound : ∀ name, lower name ≠ lower space.name →
        graph.links.Names includes space.name name →
        ∃ file, "const " ++ lower name ++ " = @import(\"" ++ file ++ "\");" ∈
          Generator.headerLines space.name order := by
      rintro name foreign (own | ⟨entry, offered, same⟩)
      · exact absurd own foreign
      · rw [← same]
        exact ⟨_, List.mem_append_left _ (course.line_taken consistent offered)⟩
    intro line listed reference used written
    have member := Namespace.reference_of_piece listed used
    rcases prefix_text_cases reference space.name with none | ⟨name, given, foreign, text⟩
    · exact absurd none written
    · have line : ∃ file, "const " ++ lower name ++ " = @import(\"" ++ file ++ "\");" ∈
          Generator.headerLines space.name order := by
        rcases Reference.space_cases given with ⟨found, isName, qualifier⟩ | ⟨object, rfl⟩
        · exact bound name foreign (qualified reference member found isName name qualifier)
        · rcases objects ⟨reference, member, object⟩ with implied | named
          · refine ⟨moduleFileName "GObject", List.mem_append_right _ ?_⟩
            rw [← object_line, implied]
            exact List.mem_singleton_self _
          · exact bound "gobject" foreign named
      obtain ⟨file, line⟩ := line
      exact ⟨lower name, file, text, line⟩
  · obtain ⟨_, first, _, met, around⟩ := course.cycle_met
    exact absurd (Links.reaches_outside_nothing.mp around) (acyclic first met)

def objectIncludes : IncludeGraph :=
  [("GObject-2.0.gir", [⟨"GLib", "2.0"⟩]), ("GLib-2.0.gir", [])]

/-- A namespace with a type of its own whose signals and parent come from an include, and an alias of
a type that only that include's repository includes. -/
def sourceSpace : Namespace where
  name := "Gio"
  aliases := [⟨"Source", ⟨some ⟨some "GLib", "Source"⟩, none⟩⟩]
  classes := [{
    name := "App"
    parent := some ⟨some "GObject", "Object"⟩
    signals := [{ name := "open" }] }]

theorem prefixes_bound_source :
    "pub const Source = glib.Source;" ∈ sourceSpace.lines ∧
    ∃ lines, objectIncludes.header? "Gio" [⟨"GObject", "2.0"⟩] = some lines ∧
      ∃ module file, "glib." = module ++ "." ∧
        "const " ++ module ++ " = @import(\"" ++ file ++ "\");" ∈ lines := by
  have course : Course objectIncludes.links [] [] [⟨"GObject", "2.0"⟩]
      [⟨"GObject", "2.0"⟩, ⟨"GLib", "2.0"⟩] ["GLib-2.0.gir", "GObject-2.0.gir"] .finished :=
    .taken (by decide) (by decide) rfl (.taken (by decide) (by decide) rfl .done .done) .done
  have names : ∀ name ∈ ["GObject", "GLib"],
      objectIncludes.links.Names [⟨"GObject", "2.0"⟩] "Gio" name := by
    have object : objectIncludes.links.Offers [⟨"GObject", "2.0"⟩] ⟨"GObject", "2.0"⟩ :=
      .inl (by simp)
    have base : objectIncludes.links.Offers [⟨"GObject", "2.0"⟩] ⟨"GLib", "2.0"⟩ :=
      .inr ⟨"GObject-2.0.gir", _, object.met, rfl, by simp⟩
    intro name member
    rcases List.mem_cons.mp member with rfl | member
    · exact .inr ⟨_, object, rfl⟩
    · rw [List.mem_singleton.mp member]
      exact .inr ⟨_, base, rfl⟩
  have qualifiers : ∀ reference ∈ sourceSpace.references, ∀ name ∈ reference.name?,
      ∀ qualifier ∈ name.space, qualifier ∈ ["GObject", "GLib"] := by decide
  obtain ⟨texts, _, lines, made, bound⟩ :=
    prefixes_bound objectIncludes [⟨"GObject", "2.0"⟩] sourceSpace
      (fun source met => by
        have found : ∀ name ∈ ["GObject-2.0.gir", "GLib-2.0.gir"],
          (objectIncludes.links name).isSome := by decide
        exact found source (course.mem_order_iff.mpr met))
      (fun source met around => course.no_cycle met (Links.reaches_outside_nothing.mpr around))
      (fun first second listed listed' => by
        have unique : ∀ first ∈ [⟨"GObject", "2.0"⟩] ++ objectIncludes.flatMap Prod.snd,
            ∀ second ∈ [⟨"GObject", "2.0"⟩] ++ objectIncludes.flatMap Prod.snd,
              first.source = second.source → first.name = second.name := by decide
        exact unique first (IncludeGraph.listed_of_offered listed) second
          (IncludeGraph.listed_of_offered listed'))
      (fun reference member name isName qualifier isIn =>
        names qualifier (qualifiers reference member name isName qualifier isIn))
      fun _ => by
        have same : lower "gobject" = lower "GObject" := by decide +kernel
        have object := names "GObject" (by simp)
        unfold Links.Names at object ⊢
        rw [same]
        exact .inr object
  let source : Reference := .simple ⟨some ⟨some "GLib", "Source"⟩, none⟩
  let line : List Piece :=
    [.fixed "pub const Source = ", .fixed "", .qualifier source, .fixed "Source", .fixed ";"]
  have listed : line ∈ sourceSpace.pieces := by decide +kernel
  have written : lineText "Gio" line = "pub const Source = glib.Source;" := by decide +kernel
  have text : source.prefixText "Gio" = "glib." := by decide +kernel
  have found := bound line listed source (by decide) (by
    intro empty
    rw [show sourceSpace.name = "Gio" from rfl, text] at empty
    exact absurd empty (by decide))
  rw [show sourceSpace.name = "Gio" from rfl, text] at found
  refine ⟨?_, lines, made, found⟩
  rw [show sourceSpace.lines = _ from texts "Gio", ← written]
  exact List.mem_map_of_mem listed

end ZigBindings
