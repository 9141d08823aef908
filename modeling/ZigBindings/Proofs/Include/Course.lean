import Mathlib.Data.List.Nodup
import ZigBindings.Proofs.Include.Reach

/-!
# The course of a walk

How a walk through includes goes, told without the state of the one who resolves the sources: which
includes are taken up, in which order, and how it ends. A walk of any depth, whatever it does on
the way, follows a course; everything about graphs is then proved of courses.
-/

namespace ZigBindings

abbrev sourcesOf (includes : List Include) : List String :=
  includes.map Include.source

theorem mem_sources_split {name : String} {entry : Include} {below later : List Include} :
    name ∈ sourcesOf (entry :: (below ++ later)) ↔
      name = entry.source ∨ name ∈ sourcesOf below ∨ name ∈ sourcesOf later := by
  simp only [sourcesOf, List.map_cons, List.map_append, List.mem_cons, List.mem_append]

/-- How a walk ends: with all includes finished, at a source that is still being walked, or at a
source that is not resolved. -/
inductive Ending where
  | finished
  | cycle (sources : List String)
  | refused
  deriving DecidableEq

/-- `Course links visiting seen includes order after ending`: with `visiting` being walked and
`seen` finished, the walk of `includes` takes up the includes `order`, leaves `after` finished and
ends with `ending`. -/
inductive Course (links : Links) :
    List String → List String → List Include → List Include → List String → Ending → Prop
  | done {visiting seen : List String} : Course links visiting seen [] [] seen .finished
  | passed {visiting seen after : List String} {entry : Include} {rest order : List Include}
      {ending : Ending} (known : entry.source ∈ seen)
      (later : Course links visiting seen rest order after ending) :
      Course links visiting seen (entry :: rest) order after ending
  | closed {visiting seen : List String} {entry : Include} {rest : List Include}
      (fresh : entry.source ∉ seen) (open_ : entry.source ∈ visiting) :
      Course links visiting seen (entry :: rest) [] seen
        (.cycle (visiting.dropWhile (· ≠ entry.source) ++ [entry.source]))
  | refused {visiting seen : List String} {entry : Include} {rest : List Include}
      (fresh : entry.source ∉ seen) (shut : entry.source ∉ visiting) :
      Course links visiting seen (entry :: rest) [entry] seen .refused
  | broken {visiting seen after : List String} {entry : Include}
      {rest includes below : List Include} {ending : Ending}
      (fresh : entry.source ∉ seen) (shut : entry.source ∉ visiting)
      (found : links entry.source = some includes)
      (inner : Course links (visiting ++ [entry.source]) seen includes below after ending)
      (stopped : ending ≠ .finished) :
      Course links visiting seen (entry :: rest) (entry :: below) after ending
  | taken {visiting seen middle after : List String} {entry : Include}
      {rest includes below later : List Include} {ending : Ending}
      (fresh : entry.source ∉ seen) (shut : entry.source ∉ visiting)
      (found : links entry.source = some includes)
      (inner : Course links (visiting ++ [entry.source]) seen includes below middle .finished)
      (outer : Course links visiting (middle ++ [entry.source]) rest later after ending) :
      Course links visiting seen (entry :: rest) (entry :: (below ++ later)) after ending

namespace Course

variable {links : Links} {visiting seen after : List String} {includes order : List Include}
  {ending : Ending}

theorem mono {larger : Links}
    (more : ∀ source includes, links source = some includes → larger source = some includes)
    (course : Course links visiting seen includes order after ending) :
    Course larger visiting seen includes order after ending := by
  induction course with
  | done => exact .done
  | passed known _ ih => exact .passed known ih
  | closed fresh open_ => exact .closed fresh open_
  | refused fresh shut => exact .refused fresh shut
  | broken fresh shut found _ stopped ih => exact .broken fresh shut (more _ _ found) ih stopped
  | taken fresh shut found _ _ ihInner ihOuter =>
      exact .taken fresh shut (more _ _ found) ihInner ihOuter

theorem seen_subset (course : Course links visiting seen includes order after ending) :
    seen ⊆ after := by
  induction course with
  | done => exact List.Subset.refl _
  | passed _ _ ih => exact ih
  | closed => exact List.Subset.refl _
  | refused => exact List.Subset.refl _
  | broken _ _ _ _ _ ih => exact ih
  | taken _ _ _ _ _ ihInner ihOuter =>
      intro name member
      exact ihOuter (List.mem_append_left _ (ihInner member))

theorem mem_seen_or_order (course : Course links visiting seen includes order after ending)
    {name : String} (member : name ∈ after) : name ∈ seen ∨ name ∈ sourcesOf order := by
  induction course with
  | done => exact .inl member
  | passed _ _ ih => exact ih member
  | closed => exact .inl member
  | refused => exact .inl member
  | broken _ _ _ _ _ ih =>
      rcases ih member with old | new
      · exact .inl old
      · exact .inr (List.mem_cons_of_mem _ new)
  | taken _ _ _ _ _ ihInner ihOuter =>
      rw [mem_sources_split]
      rcases ihOuter member with old | new
      · rcases List.mem_append.mp old with old | last
        · rcases ihInner old with old | new
          · exact .inl old
          · exact .inr (.inr (.inl new))
        · exact .inr (.inl (List.mem_singleton.mp last))
      · exact .inr (.inr (.inr new))

theorem order_subset (course : Course links visiting seen includes order after ending)
    (finished : ending = .finished) : sourcesOf order ⊆ after := by
  induction course with
  | done => simp
  | passed _ _ ih => exact ih finished
  | closed => cases finished
  | refused => cases finished
  | broken _ _ _ _ stopped => exact absurd finished stopped
  | taken _ _ _ _ outer ihInner ihOuter =>
      intro name member
      have kept := outer.seen_subset
      rcases mem_sources_split.mp member with rfl | below | later
      · exact kept (by simp)
      · exact kept (List.mem_append_left _ (ihInner rfl below))
      · exact ihOuter finished later

theorem includes_subset (course : Course links visiting seen includes order after ending)
    (finished : ending = .finished) : sourcesOf includes ⊆ after := by
  induction course with
  | done => simp
  | passed known later ih =>
      intro name member
      rcases List.mem_cons.mp member with rfl | member
      · exact later.seen_subset known
      · exact ih finished member
  | closed => cases finished
  | refused => cases finished
  | broken _ _ _ _ stopped => exact absurd finished stopped
  | taken _ _ _ _ outer _ ihOuter =>
      intro name member
      rcases List.mem_cons.mp member with rfl | member
      · exact outer.seen_subset (by simp)
      · exact ihOuter finished member

theorem finished_closed (course : Course links visiting seen includes order after ending)
    {name : String} (member : name ∈ after) (fresh : name ∉ seen) :
    ∃ inner, links name = some inner ∧ sourcesOf inner ⊆ after := by
  induction course with
  | done => exact absurd member fresh
  | passed _ _ ih => exact ih member fresh
  | closed => exact absurd member fresh
  | refused => exact absurd member fresh
  | broken _ _ _ _ _ ih => exact ih member fresh
  | @taken _ _ middle _ entry _ _ _ _ _ _ _ found inner outer ihInner ihOuter =>
      by_cases old : name ∈ middle ++ [entry.source]
      · rcases List.mem_append.mp old with old | last
        · obtain ⟨found', listed, inside⟩ := ihInner old fresh
          refine ⟨found', listed, fun target isTarget => ?_⟩
          exact outer.seen_subset (List.mem_append_left _ (inside isTarget))
        · rw [List.mem_singleton.mp last]
          refine ⟨_, found, fun target isTarget => ?_⟩
          exact outer.seen_subset
            (List.mem_append_left _ (inner.includes_subset rfl isTarget))
      · exact ihOuter member old

theorem order_fresh (course : Course links visiting seen includes order after ending)
    {name : String} (member : name ∈ sourcesOf order) : name ∉ seen ∧ name ∉ visiting := by
  induction course with
  | done => simp at member
  | passed _ _ ih => exact ih member
  | closed => simp at member
  | refused fresh shut =>
      rw [List.mem_singleton.mp member]
      exact ⟨fresh, shut⟩
  | broken fresh shut _ _ _ ih =>
      rcases List.mem_cons.mp member with rfl | below
      · exact ⟨fresh, shut⟩
      · exact ⟨(ih below).1, fun inside => (ih below).2 (List.mem_append_left _ inside)⟩
  | taken fresh shut _ inner _ ihInner ihOuter =>
      rcases mem_sources_split.mp member with rfl | below | later
      · exact ⟨fresh, shut⟩
      · exact ⟨(ihInner below).1,
          fun inside => (ihInner below).2 (List.mem_append_left _ inside)⟩
      · refine ⟨fun inside => (ihOuter later).1 ?_, (ihOuter later).2⟩
        exact List.mem_append_left _ (inner.seen_subset inside)

theorem order_nodup (course : Course links visiting seen includes order after ending) :
    (sourcesOf order).Nodup := by
  induction course with
  | done => exact List.nodup_nil
  | passed _ _ ih => exact ih
  | closed => exact List.nodup_nil
  | refused => exact List.nodup_singleton _
  | broken _ _ _ inner _ ih =>
      refine List.nodup_cons.mpr ⟨fun below => ?_, ih⟩
      exact (inner.order_fresh below).2 (by simp)
  | taken _ _ _ inner outer ihInner ihOuter =>
      simp only [sourcesOf, List.map_cons, List.map_append, List.nodup_cons, List.mem_append]
      refine ⟨?_, List.nodup_append.mpr ⟨ihInner, ihOuter, ?_⟩⟩
      · rintro (below | later)
        · exact (inner.order_fresh below).2 (by simp)
        · exact (outer.order_fresh later).1 (by simp)
      · rintro name below _ later rfl
        exact (outer.order_fresh later).1
          (List.mem_append_left _ (inner.order_subset rfl below))

theorem visiting_not_finished (course : Course links visiting seen includes order after ending)
    {name : String} (fresh : name ∉ seen) (open_ : name ∈ visiting) : name ∉ after := by
  intro member
  rcases course.mem_seen_or_order member with old | new
  · exact fresh old
  · exact (course.order_fresh new).2 open_

theorem order_met (course : Course links visiting seen includes order after ending)
    {name : String} (member : name ∈ sourcesOf order) : links.Met seen includes name := by
  induction course with
  | done => simp at member
  | passed _ _ ih =>
      exact (ih member).weaken (fun _ inside => inside) fun _ => List.mem_cons_of_mem _
  | closed => simp at member
  | refused fresh _ =>
      rw [List.mem_singleton.mp member]
      exact .direct (by simp) fresh
  | @broken _ seen _ entry rest _ _ _ fresh _ found _ _ ih =>
      have here : links.Met seen (entry :: rest) entry.source := .direct (by simp) fresh
      rcases List.mem_cons.mp member with rfl | below
      · exact here
      · exact here.through found (ih below)
  | @taken _ seen _ _ entry rest _ _ _ _ fresh _ found inner _ ihInner ihOuter =>
      have here : links.Met seen (entry :: rest) entry.source := .direct (by simp) fresh
      rcases mem_sources_split.mp member with rfl | below | later
      · exact here
      · exact here.through found (ihInner below)
      · refine (ihOuter later).weaken (fun _ inside => ?_) fun _ => List.mem_cons_of_mem _
        exact List.mem_append_left _ (inner.seen_subset inside)

/-- A walk that finishes takes up exactly what can be met outside of what was finished. -/
theorem mem_order_iff (course : Course links visiting seen includes order after .finished)
    {name : String} : name ∈ sourcesOf order ↔ links.Met seen includes name := by
  refine ⟨course.order_met, fun met => ?_⟩
  have reached : name ∈ after := by
    induction met with
    | direct listed _ => exact course.includes_subset rfl (List.mem_map_of_mem listed)
    | onward before edge ih =>
        obtain ⟨_, same, entry, listed, rfl⟩ := edge.1
        obtain ⟨inner, found, inside⟩ := course.finished_closed ih before.not_passed
        rw [found] at same
        cases same
        exact inside (List.mem_map_of_mem listed)
  exact (course.mem_seen_or_order reached).resolve_left met.not_passed

theorem mem_after_iff (course : Course links visiting seen includes order after .finished)
    {name : String} : name ∈ after ↔ name ∈ seen ∨ name ∈ sourcesOf order := by
  refine ⟨course.mem_seen_or_order, ?_⟩
  rintro (old | new)
  · exact course.seen_subset old
  · exact course.order_subset rfl new

theorem grounded_of_larger {more fewer : List String} {name : String}
    (grounded : links.Grounded more name)
    (between : ∀ target ∈ more, target ∉ fewer → links.Grounded fewer target) :
    links.Grounded fewer name := by
  induction grounded with
  | intro name _ ih =>
      refine Acc.intro name fun target edge => ?_
      by_cases inside : target ∈ more
      · exact between target inside edge.2
      · exact ih target ⟨edge.1, inside⟩

/-- A walk that finishes takes up grounded sources only. The last source of a subtree is grounded
because all that it includes has been finished before it. -/
theorem order_grounded (course : Course links visiting seen includes order after ending)
    (finished : ending = .finished) :
    ∀ name ∈ sourcesOf order, links.Grounded seen name := by
  induction course with
  | done => simp
  | passed _ _ ih => exact ih finished
  | closed => cases finished
  | refused => cases finished
  | broken _ _ _ _ stopped => exact absurd finished stopped
  | @taken _ seen middle _ entry _ _ _ _ _ _ _ found inner _ ihInner ihOuter =>
      have ofMiddle : ∀ target ∈ middle, target ∉ seen → links.Grounded seen target :=
        fun target member fresh =>
          ihInner rfl target ((inner.mem_seen_or_order member).resolve_left fresh)
      have here : links.Grounded seen entry.source := by
        refine Acc.intro _ fun target edge => ?_
        obtain ⟨⟨_, same, other, listed, rfl⟩, fresh⟩ := edge
        rw [found] at same
        cases same
        exact ofMiddle _ (inner.includes_subset rfl (List.mem_map_of_mem listed)) fresh
      intro name member
      rcases mem_sources_split.mp member with rfl | below | later
      · exact here
      · exact ihInner rfl name below
      -- The siblings are grounded outside of more than was finished here; the rest is this subtree.
      · refine grounded_of_larger (ihOuter finished name later) fun target inside fresh => ?_
        rcases List.mem_append.mp inside with inside | last
        · exact ofMiddle target inside fresh
        · rw [List.mem_singleton.mp last]
          exact here

theorem no_cycle (course : Course links visiting seen includes order after .finished)
    {name : String} (met : links.Met seen includes name) :
    ¬Relation.TransGen (links.EdgeOutside seen) name name :=
  (course.order_grounded rfl name (course.mem_order_iff.mpr met)).not_on_cycle

/-- The sources being walked are a trail: each includes the next, and the last one has the includes
that are walked now. -/
structure Trail (links : Links) (visiting : List String) (includes : List Include) : Prop where
  distinct : visiting.Nodup
  linked : visiting.IsChain links.Edge
  current : ∀ last ∈ visiting.getLast?, ∀ entry ∈ includes, links.Edge last entry.source

theorem trail_nil : Trail links [] includes :=
  ⟨List.nodup_nil, .nil, by simp⟩

theorem Trail.rest {entry : Include} {rest : List Include}
    (trail : Trail links visiting (entry :: rest)) : Trail links visiting rest :=
  ⟨trail.distinct, trail.linked,
    fun last isLast other listed => trail.current last isLast other (by simp [listed])⟩

theorem Trail.onward {entry : Include} {rest inner : List Include}
    (trail : Trail links visiting (entry :: rest)) (shut : entry.source ∉ visiting)
    (found : links entry.source = some inner) :
    Trail links (visiting ++ [entry.source]) inner := by
  constructor
  · exact List.nodup_append.mpr ⟨trail.distinct, by simp, by
      rintro name member _ last rfl
      exact shut (List.mem_singleton.mp last ▸ member)⟩
  · refine List.isChain_append.mpr ⟨trail.linked, by simp, ?_⟩
    intro last isLast next isNext
    simp only [List.head?_cons, Option.mem_some_iff] at isNext
    exact isNext ▸ trail.current last isLast entry (by simp)
  · intro last isLast other listed
    simp only [List.getLast?_append, List.getLast?_singleton, Option.some_or,
      Option.mem_some_iff] at isLast
    exact isLast ▸ Links.edge_of_links found listed

theorem Trail.cycle {entry : Include} {rest : List Include}
    (trail : Trail links visiting (entry :: rest)) (open_ : entry.source ∈ visiting) :
    links.IsCycle (visiting.dropWhile (· ≠ entry.source) ++ [entry.source]) := by
  obtain ⟨before, behind, split, fresh⟩ := List.eq_append_cons_of_mem open_
  have rest_eq : visiting.dropWhile (· ≠ entry.source) = entry.source :: behind := by
    rw [split, List.dropWhile_append_of_pos]
    · simp
    · intro name member
      have different : name ≠ entry.source := by
        rintro rfl
        exact fresh member
      simpa using different
  have suffix : entry.source :: behind <:+ visiting := ⟨before, split.symm⟩
  rw [rest_eq]
  constructor
  · simp
  · rw [List.getLast?_concat]
    rfl
  · rw [List.dropLast_concat]
    exact trail.distinct.sublist suffix.sublist
  · refine List.isChain_append.mpr ⟨trail.linked.suffix suffix, by simp, ?_⟩
    intro last isLast next isNext
    simp only [List.head?_cons, Option.mem_some_iff] at isNext
    subst isNext
    refine trail.current last ?_ entry (by simp)
    rw [split, List.getLast?_append_of_ne_nil _ (by simp)]
    exact isLast

theorem cycle_genuine (course : Course links visiting seen includes order after ending)
    {cycle : List String} (ends : ending = .cycle cycle)
    (trail : Trail links visiting includes) : links.IsCycle cycle := by
  induction course with
  | done => cases ends
  | passed _ _ ih => exact ih ends trail.rest
  | closed _ open_ =>
      cases ends
      exact trail.cycle open_
  | refused => cases ends
  | broken _ shut found _ _ ih => exact ih ends (trail.onward shut found)
  | taken _ _ _ _ _ _ ihOuter => exact ihOuter ends trail.rest

theorem cycle_subset (course : Course links visiting seen includes order after ending)
    {cycle : List String} (ends : ending = .cycle cycle) {name : String} (member : name ∈ cycle) :
    name ∈ visiting ∨ name ∈ sourcesOf order := by
  induction course with
  | done => cases ends
  | passed _ _ ih => exact ih ends
  | closed _ open_ =>
      cases ends
      rcases List.mem_append.mp member with old | last
      · exact .inl ((List.dropWhile_sublist _).subset old)
      · exact .inl (List.mem_singleton.mp last ▸ open_)
  | refused => cases ends
  | broken _ _ _ _ _ ih =>
      rcases ih ends with old | new
      · rcases List.mem_append.mp old with old | last
        · exact .inl old
        · exact .inr (by simp [List.mem_singleton.mp last])
      · exact .inr (List.mem_cons_of_mem _ new)
  | taken _ _ _ _ _ _ ihOuter =>
      rcases ihOuter ends with old | new
      · exact .inl old
      · exact .inr (List.mem_cons_of_mem _ (by simpa [sourcesOf] using .inr (by simpa using new)))

theorem cycle_met {cycle : List String}
    (course : Course links [] seen includes order after (.cycle cycle)) :
    links.IsCycle cycle ∧ ∃ first ∈ cycle.head?, links.Met seen includes first ∧
      Relation.TransGen (links.EdgeOutside seen) first first := by
  have around := course.cycle_genuine rfl trail_nil
  have met : ∀ name ∈ cycle, links.Met seen includes name := fun name member =>
    course.order_met ((course.cycle_subset rfl member).resolve_left (by simp))
  obtain ⟨first, member, head, returns⟩ :=
    around.returns fun name isIn => (met name isIn).not_passed
  exact ⟨around, first, head, met first member, returns⟩

end Course

end ZigBindings
