import ZigBindings.Proofs.Include.Walk

/-!
# The order of import lines

Unfolded into a tree, a list of includes shows every source as often as it is included. The walk
takes up the first of each: where no cycle is in the way, it lists the unfolded tree in preorder
with all but the first encounters struck out, and writes one import line for each of them.
-/

namespace ZigBindings

/-- The tree of all that includes lead to, written out in preorder: an entry stands before the
includes of its repository, siblings stand in list order, and nothing below `passed` is shown. -/
inductive Unfolding (links : Links) (passed : List String) : List Include → List Include → Prop
  | nothing : Unfolding links passed [] []
  | omitted {entry : Include} {rest later : List Include} (known : entry.source ∈ passed)
      (others : Unfolding links passed rest later) : Unfolding links passed (entry :: rest) later
  | opened {entry : Include} {rest includes below later : List Include}
      (fresh : entry.source ∉ passed) (found : links entry.source = some includes)
      (inner : Unfolding links passed includes below)
      (others : Unfolding links passed rest later) :
      Unfolding links passed (entry :: rest) (entry :: (below ++ later))

/-- The first entry with each source, but for the sources that are known already. -/
def firstEntries (known : List String) : List Include → List Include
  | [] => []
  | entry :: rest =>
      if entry.source ∈ known then firstEntries known rest
      else entry :: firstEntries (entry.source :: known) rest

/-- `order` is what includes lead to in depth-first preorder, first encounters only. -/
def IsPreorder (links : Links) (passed : List String) (includes order : List Include) : Prop :=
  ∃ listing, Unfolding links passed includes listing ∧ order = firstEntries [] listing

section FirstEntries

theorem mem_first_entries {known : List String} {entries : List Include} {name : String} :
    name ∈ known ∨ name ∈ sourcesOf (firstEntries known entries) ↔
      name ∈ known ∨ name ∈ sourcesOf entries := by
  induction entries generalizing known with
  | nil => rfl
  | cons entry rest ih =>
      rw [firstEntries]
      split_ifs with old
      · rw [ih, sourcesOf, sourcesOf, List.map_cons, List.mem_cons]
        constructor
        · exact Or.imp_right .inr
        · rintro (before | rfl | later)
          · exact .inl before
          · exact .inl old
          · exact .inr later
      · have below := @ih (entry.source :: known)
        simp only [sourcesOf, List.map_cons, List.mem_cons] at below ⊢
        rw [or_left_comm, ← or_assoc, below, or_left_comm, or_assoc]

theorem first_entries_congr {known other : List String} (same : ∀ name, name ∈ known ↔ name ∈ other)
    (entries : List Include) : firstEntries known entries = firstEntries other entries := by
  induction entries generalizing known other with
  | nil => rfl
  | cons entry rest ih =>
      have below : firstEntries (entry.source :: known) rest =
          firstEntries (entry.source :: other) rest := ih (by simp [same])
      rw [firstEntries, firstEntries, ih same, below]
      simp only [same]

theorem first_entries_append (known : List String) (first second : List Include) :
    firstEntries known (first ++ second) =
      firstEntries known first ++ firstEntries (sourcesOf first ++ known) second := by
  induction first generalizing known with
  | nil => simp [firstEntries]
  | cons entry rest ih =>
      rw [List.cons_append, firstEntries, firstEntries]
      split_ifs with old
      · rw [ih known]
        congr 1
        refine first_entries_congr (fun name => ?_) second
        simp only [sourcesOf, List.map_cons, List.cons_append, List.mem_cons, List.mem_append]
        constructor
        · exact .inr
        · rintro (rfl | member)
          · exact .inr old
          · exact member
      · rw [ih, List.cons_append]
        congr 2
        refine first_entries_congr (fun name => ?_) second
        simp only [sourcesOf, List.map_cons, List.cons_append, List.mem_cons, List.mem_append]
        tauto

theorem first_entries_of_known {known : List String} {entries : List Include}
    (old : sourcesOf entries ⊆ known) : firstEntries known entries = [] := by
  induction entries with
  | nil => rfl
  | cons entry rest ih =>
      rw [firstEntries, if_pos (old (by simp))]
      exact ih fun name member => old (List.mem_cons_of_mem _ member)

theorem first_entries_of_absent {known : List String} {name : String} {entries : List Include}
    (absent : name ∉ sourcesOf entries) :
    firstEntries (name :: known) entries = firstEntries known entries := by
  induction entries generalizing known with
  | nil => rfl
  | cons entry rest ih =>
      have different : entry.source ≠ name := fun same => absent (by simp [same])
      have absentLater : name ∉ sourcesOf rest := fun member => absent (by simp [member])
      have swapped : firstEntries (entry.source :: name :: known) rest =
          firstEntries (entry.source :: known) rest := by
        have shuffled : ∀ other, other ∈ entry.source :: name :: known ↔
            other ∈ name :: entry.source :: known := by
          simp
          tauto
        rw [first_entries_congr shuffled]
        exact ih absentLater
      rw [firstEntries, firstEntries, ih absentLater, swapped]
      simp [different]

theorem first_entries_of_disjoint {known : List String} {entries : List Include}
    (apart : ∀ name ∈ sourcesOf entries, name ∉ known) :
    firstEntries known entries = firstEntries [] entries := by
  induction known with
  | nil => rfl
  | cons name known ih =>
      rw [first_entries_of_absent fun member => apart name member (by simp)]
      exact ih fun other member old => apart other member (by simp [old])

theorem first_entries_cons_known {known : List String} {entry : Include}
    {below : List Include} (later : List Include) (old : entry.source ∈ known)
    (oldBelow : sourcesOf below ⊆ known) :
    firstEntries known (entry :: (below ++ later)) = firstEntries known later := by
  rw [firstEntries, if_pos old, first_entries_append, first_entries_of_known oldBelow,
    List.nil_append]
  refine first_entries_congr (fun name => ?_) later
  rw [List.mem_append]
  exact ⟨fun member => member.elim (fun below => oldBelow below) id, .inr⟩

theorem first_entries_cons_fresh {known middle : List String} {entry : Include}
    {below : List Include} (later : List Include) (fresh : entry.source ∉ known)
    (absent : entry.source ∉ sourcesOf below)
    (between : ∀ name, name ∈ middle ↔ name ∈ known ∨ name ∈ sourcesOf below) :
    firstEntries known (entry :: (below ++ later)) =
      entry :: (firstEntries known below ++ firstEntries (middle ++ [entry.source]) later) := by
  rw [firstEntries, if_neg fresh, first_entries_append, first_entries_of_absent absent]
  congr 2
  refine first_entries_congr (fun name => ?_) later
  rw [List.mem_append, List.mem_append, List.mem_cons, List.mem_singleton, between]
  tauto

end FirstEntries

theorem Unfolding.outside {links : Links} {passed : List String} {includes listing : List Include}
    (unfolding : Unfolding links passed includes listing) :
    ∀ name ∈ sourcesOf listing, name ∉ passed := by
  induction unfolding with
  | nothing => simp
  | omitted _ _ ih => exact ih
  | opened fresh _ _ _ ihInner ihOthers =>
      intro name member
      rcases mem_sources_split.mp member with rfl | member | member
      · exact fresh
      · exact ihInner name member
      · exact ihOthers name member

theorem Unfolding.unique {links : Links} {passed : List String}
    {includes listing other : List Include} (unfolding : Unfolding links passed includes listing)
    (again : Unfolding links passed includes other) : listing = other := by
  induction unfolding generalizing other with
  | nothing =>
      cases again
      rfl
  | omitted known _ ih =>
      cases again with
      | omitted _ others => exact ih others
      | opened fresh _ _ _ => exact absurd known fresh
  | opened fresh found _ _ ihInner ihOthers =>
      cases again with
      | omitted known _ => exact absurd known fresh
      | opened _ found' inner others =>
          rw [found] at found'
          cases found'
          rw [ihInner inner, ihOthers others]

theorem IsPreorder.unique {links : Links} {passed : List String}
    {includes order other : List Include} (preorder : IsPreorder links passed includes order)
    (again : IsPreorder links passed includes other) : order = other := by
  obtain ⟨listing, unfolding, rfl⟩ := preorder
  obtain ⟨listing', unfolding', rfl⟩ := again
  rw [unfolding.unique unfolding']

/-- Every finished source outside of `passed` has an unfolding of its includes, all of which is
finished. -/
def Unfolds (links : Links) (passed seen : List String) : Prop :=
  ∀ name ∈ seen, name ∉ passed → ∃ includes listing, links name = some includes ∧
    Unfolding links passed includes listing ∧ sourcesOf listing ⊆ seen

theorem Unfolds.finish {links : Links} {passed seen : List String} {source : String}
    {includes listing : List Include} (ready : Unfolds links passed seen)
    (found : links source = some includes) (unfolding : Unfolding links passed includes listing)
    (inside : sourcesOf listing ⊆ seen) : Unfolds links passed (seen ++ [source]) := by
  intro name member out
  rcases List.mem_append.mp member with old | last
  · obtain ⟨includes', listing', found', unfolding', inside'⟩ := ready name old out
    exact ⟨includes', listing', found', unfolding',
      fun _ member => List.mem_append_left _ (inside' member)⟩
  · rw [List.mem_singleton.mp last]
    exact ⟨includes, listing, found, unfolding,
      fun _ member => List.mem_append_left _ (inside member)⟩

theorem Course.mem_after_listing {links : Links} {visiting seen after : List String}
    {includes order listing : List Include}
    (course : Course links visiting seen includes order after .finished)
    (first : order = firstEntries seen listing) (name : String) :
    name ∈ after ↔ name ∈ seen ∨ name ∈ sourcesOf listing := by
  rw [course.mem_after_iff, first]
  exact mem_first_entries

/-- A walk that finishes lists the first entries of an unfolding. What has been finished before
contributes nothing, since all below it has been finished with it. -/
theorem Course.unfolds {links : Links} {visiting seen after passed : List String}
    {includes order : List Include} {ending : Ending}
    (course : Course links visiting seen includes order after ending)
    (finished : ending = .finished) (larger : passed ⊆ seen)
    (ready : Unfolds links passed seen) :
    (∃ listing, Unfolding links passed includes listing ∧ order = firstEntries seen listing) ∧
      Unfolds links passed after := by
  induction course with
  | done => exact ⟨⟨[], .nothing, rfl⟩, ready⟩
  | @passed _ seen _ entry _ _ _ known course ih =>
      obtain ⟨⟨later, unfolding, first⟩, ready'⟩ := ih finished larger ready
      refine ⟨?_, ready'⟩
      by_cases out : entry.source ∈ passed
      · exact ⟨later, .omitted out unfolding, first⟩
      · obtain ⟨inner, below, found, under, old⟩ := ready _ known out
        refine ⟨entry :: (below ++ later), .opened out found under unfolding, ?_⟩
        rw [first_entries_cons_known later known old, first]
  | closed => cases finished
  | refused => cases finished
  | broken _ _ _ _ stopped => exact absurd finished stopped
  | @taken _ seen middle _ entry _ inner below _ _ fresh _ found course course' ihInner ihOuter =>
      obtain ⟨⟨under, unfolding, first⟩, ready'⟩ := ihInner rfl larger ready
      have between := course.mem_after_listing first
      have inside : sourcesOf under ⊆ middle := fun name member => (between name).mpr (.inr member)
      have larger' : passed ⊆ middle ++ [entry.source] := fun name member =>
        List.mem_append_left _ (course.seen_subset (larger member))
      obtain ⟨⟨later, unfolding', first'⟩, last⟩ :=
        ihOuter finished larger' (ready'.finish found unfolding inside)
      have out : entry.source ∉ passed := fun member => fresh (larger member)
      -- The entry is on the stack while the walk is below it, and so does not occur there.
      have absent : entry.source ∉ sourcesOf under := fun member =>
        course.visiting_not_finished fresh (by simp) (inside member)
      refine ⟨⟨entry :: (under ++ later), .opened out found unfolding unfolding', ?_⟩, last⟩
      rw [first_entries_cons_fresh later fresh absent between, ← first, ← first']

/-- With nothing finished but what is left out, a walk that finishes takes up what includes lead to
in preorder. -/
theorem Course.is_preorder {links : Links} {visiting seen after : List String}
    {includes order : List Include}
    (course : Course links visiting seen includes order after .finished) :
    IsPreorder links seen includes order := by
  obtain ⟨⟨listing, unfolding, first⟩, _⟩ :=
    course.unfolds rfl (List.Subset.refl _) fun name member out => absurd member out
  exact ⟨listing, unfolding, first.trans (first_entries_of_disjoint unfolding.outside)⟩

open Walk in
/-- Where no cycle is met outside of what has been finished, a walk takes up the sources that can be
met there, each once and in preorder, finishes them, and writes one import line for each, that of
the first include met. A header is made of these lines, with that of `GObject` after them for the
one namespace that needs it. -/
theorem imports_in_preorder (graph : IncludeGraph) (depth : Nat) (deep : graph.depth ≤ depth)
    (includes : List Include) (walk : Walk (List String)) (idle : walk.visiting = [])
    (total : ∀ source, graph.links.Met walk.seen includes source → (graph.links source).isSome)
    (acyclic : ∀ source, graph.links.Met walk.seen includes source →
      ¬Relation.TransGen (graph.links.EdgeOutside walk.seen) source source) :
    ∃ order, IsPreorder graph.links walk.seen includes order ∧ (sourcesOf order).Nodup ∧
      (∀ source, source ∈ sourcesOf order ↔ graph.links.Met walk.seen includes source) ∧
      (∃ after, emitWithin graph.recording depth includes walk = .ok () after ∧
        after.visiting = [] ∧ after.outer = walk.outer ++ sourcesOf order ∧
        (∀ source, source ∈ after.seen ↔ source ∈ walk.seen ∨ source ∈ sourcesOf order) ∧
        after.lines = walk.lines ++ order.map (importLine ·.name)) ∧
      (walk.seen = [] → ∀ name, ∃ after,
        header graph.recording depth name includes walk =
          .ok (order.map (importLine ·.name) ++
            if name = "GLib" then [importLine "GObject"] else []) after ∧
        after.visiting = [] ∧ after.outer = walk.outer ++ sourcesOf order) := by
  obtain ⟨order, seen, ⟨course, finished⟩ | ⟨cycle, course, _⟩⟩ :=
    IncludeGraph.emit_recording_cases deep walk idle total
  · refine ⟨order, course.is_preorder, course.order_nodup, fun _ => course.mem_order_iff, ?_, ?_⟩
    · exact ⟨_, finished, idle, rfl, fun _ => course.mem_after_iff, rfl⟩
    · intro nothing name
      rw [nothing] at course total acyclic
      -- A header is made by a walk of its own, which takes up the same preorder.
      obtain ⟨order', seen', ⟨course', finished'⟩ | ⟨cycle, course', _⟩⟩ :=
        IncludeGraph.emit_recording_cases deep { walk with seen := [], lines := [] } idle total
      · have same := course'.is_preorder.unique course.is_preorder
        subst same
        refine ⟨moved { walk with seen := [], lines := [] } order' seen'
          (walk.outer ++ sourcesOf order'), ?_, idle, rfl⟩
        rw [header_of_ok name finished']
        by_cases named : name = "GLib" <;> simp [impliedBy, named, moved]
      · obtain ⟨_, first, _, met, around⟩ := course'.cycle_met
        exact absurd around (acyclic first met)
  · obtain ⟨_, first, _, met, around⟩ := course.cycle_met
    exact absurd around (acyclic first met)

def sharedIncludes : IncludeGraph :=
  [("A-1.gir", [⟨"C", "1"⟩, ⟨"D", "1"⟩]), ("B-1.gir", [⟨"D", "1"⟩, ⟨"S", "1"⟩]),
    ("C-1.gir", [⟨"D", "1"⟩]), ("D-1.gir", [])]

theorem shared_course :
    Course sharedIncludes.links [] ["S-1.gir"] [⟨"A", "1"⟩, ⟨"B", "1"⟩, ⟨"A", "1"⟩]
      [⟨"A", "1"⟩, ⟨"C", "1"⟩, ⟨"D", "1"⟩, ⟨"B", "1"⟩]
      ["S-1.gir", "D-1.gir", "C-1.gir", "A-1.gir", "B-1.gir"] .finished :=
  .taken (by decide) (by decide) rfl
    (.taken (by decide) (by decide) rfl
      (.taken (by decide) (by decide) rfl .done .done)
      (.passed (by decide) .done))
    (.taken (by decide) (by decide) rfl
      (.passed (by decide) (.passed (by decide) .done))
      (.passed (by decide) .done))

theorem imports_in_preorder_shared :
    ∃ after, Walk.emitWithin sharedIncludes.recording 5
        [⟨"A", "1"⟩, ⟨"B", "1"⟩, ⟨"A", "1"⟩] { seen := ["S-1.gir"], outer := [] } = .ok () after ∧
      after.outer = ["A-1.gir", "C-1.gir", "D-1.gir", "B-1.gir"] := by
  have total : ∀ source, sharedIncludes.links.Met ["S-1.gir"]
      [⟨"A", "1"⟩, ⟨"B", "1"⟩, ⟨"A", "1"⟩] source → (sharedIncludes.links source).isSome := by
    intro source met
    have found : ∀ name ∈ ["A-1.gir", "C-1.gir", "D-1.gir", "B-1.gir"],
        (sharedIncludes.links name).isSome := by decide
    exact found source (shared_course.mem_order_iff.mpr met)
  obtain ⟨order, preorder, _, _, ⟨after, emitted, _, outer, _⟩, _⟩ :=
    imports_in_preorder sharedIncludes 5 (by decide) [⟨"A", "1"⟩, ⟨"B", "1"⟩, ⟨"A", "1"⟩]
      { seen := ["S-1.gir"], outer := [] } rfl total fun _ met => shared_course.no_cycle met
  refine ⟨after, emitted, ?_⟩
  rw [outer, preorder.unique shared_course.is_preorder]
  decide

end ZigBindings
