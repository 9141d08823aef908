import Mathlib.Data.List.Perm.Subperm
import ZigBindings.Proofs.Include.Course

/-!
# Walks follow courses

A walk whose resolver answers as a graph says follows a course through that graph, and what it does
to the state outside is what asking for the sources of the course one after the other does. The
depth that is handed down never decides anything as long as it exceeds the number of sources.
-/

namespace ZigBindings

namespace Walk

variable {σ : Type} {resolve : Resolver σ}

def moved (walk : Walk σ) (order : List Include) (seen : List String) (outer : σ) : Walk σ :=
  { walk with seen, lines := walk.lines ++ order.map (importLine ·.name), outer }

def stateOf {τ α : Type} : EStateM.Result Stop τ α → τ
  | .ok _ state => state
  | .error _ state => state

def settle (walk : Walk σ) (order : List Include) (seen : List String) :
    EStateM.Result Stop σ Unit → EStateM.Result Stop (Walk σ) Unit
  | .ok _ outer => .ok () (walk.moved order seen outer)
  | .error stop outer => .error stop (walk.moved order seen outer)

def inside (walk : Walk σ) (entry : Include) (outer : σ) : Walk σ :=
  { visiting := walk.visiting ++ [entry.source], seen := walk.seen,
    lines := walk.lines ++ [importLine entry.name], outer }

def beyond (walk : Walk σ) (entry : Include) (below : List Include) (seen : List String)
    (outer : σ) : Walk σ :=
  walk.moved (entry :: below) (seen ++ [entry.source]) outer

/-- The result of visiting an entry, by what the descent did outside. -/
def rise (walk : Walk σ) (entry : Include) (below : List Include) (seen : List String) :
    EStateM.Result Stop σ Unit → EStateM.Result Stop (Walk σ) Unit
  | .ok _ outer => .ok () (walk.beyond entry below seen outer)
  | .error stop outer => .error stop (walk.moved (entry :: below) seen outer)

theorem moved_nothing (walk : Walk σ) : walk.moved [] walk.seen walk.outer = walk := by
  simp [moved]

theorem leave_inside (walk : Walk σ) (entry : Include) (below : List Include)
    (seen : List String) (middle outer : σ) :
    leave ((walk.inside entry middle).moved below seen outer) =
      walk.moved (entry :: below) seen outer := by
  simp [leave, inside, moved]

theorem settle_beyond (walk : Walk σ) (entry : Include) (below later : List Include)
    (middle seen : List String) (outer : σ) (outside : EStateM.Result Stop σ Unit) :
    (walk.beyond entry below middle outer).settle later seen outside =
      walk.settle (entry :: (below ++ later)) seen outside := by
  cases outside <;> simp [settle, beyond, moved]

section Visit

variable {descend : List Include → Action (Walk σ) Unit} {entry : Include} {walk : Walk σ}

theorem visit_known (known : entry.source ∈ walk.seen) :
    visit resolve descend entry walk = .ok () walk := by
  simp [visit, known]

theorem visit_open (fresh : entry.source ∉ walk.seen) (open_ : entry.source ∈ walk.visiting) :
    visit resolve descend entry walk =
      .error (.because (.cycle (walk.cycleTo entry.source))) walk := by
  simp [visit, fresh, open_]

theorem visit_refused (fresh : entry.source ∉ walk.seen) (shut : entry.source ∉ walk.visiting)
    {stop : Stop} {outer : σ} (refused : resolve entry.source walk.outer = .error stop outer) :
    visit resolve descend entry walk = .error stop (walk.moved [entry] walk.seen outer) := by
  simp [visit, fresh, shut, addLine, resolveOuter, Action.onPart, refused, moved]

theorem visit_resolved (fresh : entry.source ∉ walk.seen) (shut : entry.source ∉ walk.visiting)
    {includes : List Include} {outer : σ}
    (resolved : resolve entry.source walk.outer = .ok includes outer) :
    visit resolve descend entry walk =
      match descend includes (walk.inside entry outer) with
      | .ok _ lower => .ok () (finish entry.source (leave lower))
      | .error stop lower => .error stop (leave lower) := by
  simp only [visit, fresh, shut, addLine, resolveOuter, Action.onPart, resolved, Action.between,
    enter, inside, List.contains_iff_mem, if_false, Action.bind_apply, Action.get_apply,
    Action.modify_apply]
  cases descend includes _ <;> rfl

theorem visit_settled (fresh : entry.source ∉ walk.seen) (shut : entry.source ∉ walk.visiting)
    {includes below : List Include} {seen : List String} {outer : σ}
    {outside : EStateM.Result Stop σ Unit}
    (resolved : resolve entry.source walk.outer = .ok includes outer)
    (descent : descend includes (walk.inside entry outer) =
      (walk.inside entry outer).settle below seen outside) :
    visit resolve descend entry walk = walk.rise entry below seen outside := by
  rw [visit_resolved fresh shut resolved, descent]
  cases outside with
  | ok _ after =>
      simp only [settle, leave_inside]
      rfl
  | error stop after => simp only [settle, leave_inside, rise]

end Visit

/-- A resolver has been asked for sources one after the other and has answered each time. -/
inductive Asked (resolve : Resolver σ) : σ → List String → σ → Prop
  | nothing {outer : σ} : Asked resolve outer [] outer
  | next {outer middle after : σ} {source : String} {rest : List String}
      {includes : List Include} (answered : resolve source outer = .ok includes middle)
      (others : Asked resolve middle rest after) : Asked resolve outer (source :: rest) after

theorem Asked.append {outer middle after : σ} {first second : List String}
    (asked : Asked resolve outer first middle) (more : Asked resolve middle second after) :
    Asked resolve outer (first ++ second) after := by
  induction asked with
  | nothing => exact more
  | next answered _ ih => exact .next answered (ih more)

/-- What a walk that takes up `sources` does outside: everything is asked for, and only a walk that
is refused stops inside the last question. -/
inductive Effect (resolve : Resolver σ) (outer : σ) (sources : List String) :
    Ending → EStateM.Result Stop σ Unit → Prop
  | finished {after : σ} (asked : Asked resolve outer sources after) :
      Effect resolve outer sources .finished (.ok () after)
  | cycle {after : σ} {cycle : List String} (asked : Asked resolve outer sources after) :
      Effect resolve outer sources (.cycle cycle) (.error (.because (.cycle cycle)) after)
  | refused {middle after : σ} {before : List String} {source : String} {stop : Stop}
      (split : sources = before ++ [source]) (asked : Asked resolve outer before middle)
      (stopped : resolve source middle = .error stop after) :
      Effect resolve outer sources .refused (.error stop after)

theorem Effect.after_asked {outer middle : σ} {first second : List String} {ending : Ending}
    {result : EStateM.Result Stop σ Unit} (effect : Effect resolve middle second ending result)
    (asked : Asked resolve outer first middle) :
    Effect resolve outer (first ++ second) ending result := by
  cases effect with
  | finished more => exact .finished (asked.append more)
  | cycle more => exact .cycle (asked.append more)
  | refused split more stopped =>
      subst split
      exact .refused (List.append_assoc _ _ _).symm (asked.append more) stopped

/-- Sources that are closed under including, of which only those of `pool` have a repository. -/
structure Domain (links : Links) (domain : String → Prop) (pool : List String) : Prop where
  onward : ∀ source target, domain source → links.Edge source target → domain target
  listed : ∀ source includes, domain source → links source = some includes → source ∈ pool

/-- A resolver gives the includes that a graph says, as long as something holds outside, which it
keeps. -/
def Answers (resolve : Resolver σ) (links : Links) (domain : String → Prop)
    (holds : σ → Prop) : Prop :=
  ∀ source outer includes after, domain source → holds outer →
    resolve source outer = .ok includes after → links source = some includes ∧ holds after

theorem Asked.holds {links : Links} {domain : String → Prop} {holds : σ → Prop}
    (answers : Answers resolve links domain holds) {outer after : σ} {sources : List String}
    (asked : Asked resolve outer sources after) (within : ∀ source ∈ sources, domain source)
    (start : holds outer) : holds after := by
  induction asked with
  | nothing => exact start
  | next answered _ ih =>
      have step := answers _ _ _ _ (within _ (by simp)) start answered
      exact ih (fun source member => within source (by simp [member])) step.2

def Follows (resolve : Resolver σ) (links : Links) (walk : Walk σ) (includes : List Include)
    (result : EStateM.Result Stop (Walk σ) Unit) : Prop :=
  ∃ order seen ending outside,
    Course links walk.visiting walk.seen includes order seen ending ∧
    Effect resolve walk.outer (sourcesOf order) ending outside ∧
    result = walk.settle order seen outside

section Follow

variable {links : Links} {domain : String → Prop} {pool : List String} {holds : σ → Prop}

theorem order_within (scope : Domain links domain pool) {includes order : List Include}
    {visiting seen after : List String} {ending : Ending}
    (course : Course links visiting seen includes order after ending)
    (within : ∀ entry ∈ includes, domain entry.source) :
    ∀ source ∈ sourcesOf order, domain source := by
  intro source member
  refine (course.order_met member).mem_of_closed domain (fun entry listed _ => within entry listed) ?_
  exact fun name target inside edge => scope.onward name target inside edge.1

theorem taken_follows (answers : Answers resolve links domain holds)
    (scope : Domain links domain pool) {descend : List Include → Action (Walk σ) Unit}
    {entry : Include} {rest inner : List Include} {walk : Walk σ} {outer : σ}
    (here : domain entry.source) (fresh : entry.source ∉ walk.seen)
    (shut : entry.source ∉ walk.visiting) (found : links entry.source = some inner)
    (answered : resolve entry.source walk.outer = .ok inner outer) (kept : holds outer)
    (descent : Follows resolve links (walk.inside entry outer) inner
      (descend inner (walk.inside entry outer)))
    (others : ∀ lower : Walk σ, lower.visiting = walk.visiting → holds lower.outer →
      Follows resolve links lower rest (rest.forM (visit resolve descend) lower)) :
    Follows resolve links walk (entry :: rest)
      ((entry :: rest).forM (visit resolve descend) walk) := by
  obtain ⟨below, middle, ending, outside, course, effect, same⟩ := descent
  have asked : Asked resolve walk.outer [entry.source] outer := .next answered .nothing
  have whole := effect.after_asked asked
  rw [Action.forM_cons_apply, visit_settled fresh shut answered same]
  cases effect with
  | finished more =>
      have within : ∀ other ∈ inner, domain other.source := fun other listed =>
        scope.onward _ _ here (Links.edge_of_links found listed)
      -- What holds outside is carried through the descent to the entries after it.
      have kept' := more.holds answers (order_within scope course within) kept
      obtain ⟨later, seen, ending, outside, course', effect', same'⟩ :=
        others (walk.beyond entry below middle _) rfl kept'
      refine ⟨entry :: (below ++ later), seen, ending, outside,
        .taken fresh shut found course course', ?_, ?_⟩
      · have joined := effect'.after_asked (asked.append more)
        simpa using joined
      · rw [← settle_beyond]
        exact same'
  | cycle _ =>
      exact ⟨entry :: below, middle, _, _, .broken fresh shut found course (by simp), whole, rfl⟩
  | refused _ _ _ =>
      exact ⟨entry :: below, middle, _, _, .broken fresh shut found course (by simp), whole, rfl⟩

theorem siblings_follow (answers : Answers resolve links domain holds)
    (scope : Domain links domain pool) {descend : List Include → Action (Walk σ) Unit}
    {includes : List Include} {walk : Walk σ} (start : holds walk.outer)
    (within : ∀ entry ∈ includes, domain entry.source)
    (descends : ∀ entry ∈ includes, entry.source ∉ walk.visiting → ∀ inner (lower : Walk σ),
      links entry.source = some inner → lower.visiting = walk.visiting ++ [entry.source] →
      holds lower.outer → Follows resolve links lower inner (descend inner lower)) :
    Follows resolve links walk includes (includes.forM (visit resolve descend) walk) := by
  induction includes generalizing walk with
  | nil =>
      refine ⟨[], walk.seen, .finished, .ok () walk.outer, .done, .finished .nothing, ?_⟩
      rw [settle, moved_nothing]
      rfl
  | cons entry rest ih =>
      have here := within entry (by simp)
      have others : ∀ lower : Walk σ, lower.visiting = walk.visiting → holds lower.outer →
          Follows resolve links lower rest (rest.forM (visit resolve descend) lower) := by
        intro lower stack holdsLower
        refine ih holdsLower (fun other member => within other (by simp [member])) ?_
        rw [stack]
        exact fun other member => descends other (by simp [member])
      -- The cases are the ways in which a walk can meet an entry.
      by_cases known : entry.source ∈ walk.seen
      · rw [Action.forM_cons_apply, visit_known known]
        obtain ⟨order, seen, ending, outside, course, effect, same⟩ := others walk rfl start
        exact ⟨order, seen, ending, outside, .passed known course, effect, same⟩
      by_cases open_ : entry.source ∈ walk.visiting
      · rw [Action.forM_cons_apply, visit_open known open_]
        refine ⟨[], walk.seen, _, _, .closed known open_, .cycle .nothing, ?_⟩
        rw [settle, moved_nothing]
        rfl
      cases answered : resolve entry.source walk.outer with
      | error stop outer =>
          rw [Action.forM_cons_apply, visit_refused known open_ answered]
          exact ⟨[entry], walk.seen, _, _, .refused known open_,
            .refused (List.nil_append _).symm .nothing answered, rfl⟩
      | ok inner outer =>
          obtain ⟨found, kept⟩ := answers _ _ _ _ here start answered
          exact taken_follows answers scope here known open_ found answered kept
            (descends entry (by simp) open_ inner _ found rfl kept) others

/-- A walk follows a course if it may go deeper than there are sources outside of its stack. -/
theorem emit_follows (answers : Answers resolve links domain holds)
    (scope : Domain links domain pool) {depth : Nat} {includes : List Include} {walk : Walk σ}
    (start : holds walk.outer) (within : ∀ entry ∈ includes, domain entry.source)
    (distinct : walk.visiting.Nodup) (listed : walk.visiting ⊆ pool)
    (deep : pool.length < depth + walk.visiting.length) :
    Follows resolve links walk includes (emitWithin resolve depth includes walk) := by
  induction depth generalizing includes walk with
  | zero =>
      -- The stack would hold more distinct members of the pool than there are.
      have bounded := (List.subperm_of_subset distinct listed).length_le
      omega
  | succ depth ih =>
      refine siblings_follow answers scope start within ?_
      intro entry member shut inner lower found stack kept
      have here := within entry member
      have distinct' : (walk.visiting ++ [entry.source]).Nodup := by
        refine List.nodup_append.mpr ⟨distinct, by simp, ?_⟩
        rintro name old _ last rfl
        exact shut (List.mem_singleton.mp last ▸ old)
      have listed' : walk.visiting ++ [entry.source] ⊆ pool := by
        refine List.append_subset.mpr ⟨listed, ?_⟩
        simpa using scope.listed _ _ here found
      refine ih kept (fun other isListed => ?_) (stack ▸ distinct') (stack ▸ listed') ?_
      · exact scope.onward _ _ here (Links.edge_of_links found isListed)
      · rw [stack, List.length_append, List.length_singleton]
        omega

end Follow

theorem header_apply (depth : Nat) (name : String) (includes : List Include) (walk : Walk σ) :
    header resolve depth name includes walk =
      match emitWithin resolve depth includes { walk with seen := [], lines := [] } with
      | .ok _ after => .ok (after.lines ++ (impliedBy name).map importLine) after
      | .error stop after => .error stop after := by
  simp only [header, Action.bind_apply, Action.modify_apply]
  cases emitWithin resolve depth includes _ <;> rfl

theorem header_of_ok {depth : Nat} {includes : List Include} {walk after : Walk σ} (name : String)
    (emitted : emitWithin resolve depth includes { walk with seen := [], lines := [] } =
      .ok () after) :
    header resolve depth name includes walk =
      .ok (after.lines ++ (impliedBy name).map importLine) after := by
  rw [header_apply, emitted]

theorem header_of_error {depth : Nat} {includes : List Include} {walk after : Walk σ} {stop : Stop}
    (name : String)
    (emitted : emitWithin resolve depth includes { walk with seen := [], lines := [] } =
      .error stop after) :
    header resolve depth name includes walk = .error stop after := by
  rw [header_apply, emitted]

end Walk

namespace IncludeGraph

open Walk

variable {graph : IncludeGraph}

theorem recording_found {source : String} {includes : List Include} (outer : List String)
    (found : graph.links source = some includes) :
    graph.recording source outer = .ok includes (outer ++ [source]) := by
  simp [recording, found]

theorem recording_missing {source : String} (outer : List String)
    (missing : graph.links source = none) :
    ∃ stop, stop ≠ .tooDeep ∧ graph.recording source outer = .error stop (outer ++ [source]) := by
  simp [recording, missing, Stop.because]

theorem recording_answers (graph : IncludeGraph) :
    Answers graph.recording graph.links (fun _ => True) (fun _ => True) := by
  intro source outer includes after _ _ answered
  cases found : graph.links source with
  | none =>
      obtain ⟨_, _, refused⟩ := recording_missing outer found
      rw [refused] at answered
      cases answered
  | some inner =>
      rw [recording_found outer found] at answered
      cases answered
      exact ⟨rfl, trivial⟩

theorem recorded_of_asked {outer after sources : List String}
    (asked : Asked graph.recording outer sources after) : after = outer ++ sources := by
  induction asked with
  | nothing => simp
  | @next outer _ _ source _ _ answered _ ih =>
      cases found : graph.links source with
      | none =>
          obtain ⟨_, _, refused⟩ := recording_missing outer found
          rw [refused] at answered
          cases answered
      | some inner =>
          rw [recording_found outer found] at answered
          cases answered
          rw [ih, List.append_assoc]
          rfl

theorem lookup_mem_keys {source : String} {includes : List Include}
    (found : graph.links source = some includes) : source ∈ graph.map Prod.fst := by
  have member : (source, includes) ∈ graph := by
    obtain ⟨before, behind, split, _⟩ := List.lookup_eq_some_iff.mp found
    simp [split]
  exact List.mem_map_of_mem member

theorem domain_keys (graph : IncludeGraph) :
    Domain graph.links (fun _ => True) (graph.map Prod.fst) :=
  ⟨fun _ _ _ _ => trivial, fun _ _ _ found => lookup_mem_keys found⟩

theorem total_of_rows {includes : List Include} {passed : List String}
    (rows : ∀ row ∈ graph, ∀ entry ∈ row.2, (graph.links entry.source).isSome)
    (start : ∀ entry ∈ includes, (graph.links entry.source).isSome) {source : String}
    (met : graph.links.Met passed includes source) : (graph.links source).isSome := by
  refine met.mem_of_closed (fun name => (graph.links name).isSome)
    (fun entry listed _ => start entry listed) ?_
  intro name target _ edge
  obtain ⟨⟨inner, found, entry, listed, rfl⟩, _⟩ := edge
  obtain ⟨before, behind, split, _⟩ := List.lookup_eq_some_iff.mp found
  exact rows (name, inner) (by simp [split]) entry listed

theorem emit_recording_follows {depth : Nat} (deep : graph.depth ≤ depth)
    (includes : List Include) (walk : Walk (List String)) (idle : walk.visiting = []) :
    Follows graph.recording graph.links walk includes
      (emitWithin graph.recording depth includes walk) := by
  refine emit_follows (recording_answers graph) (domain_keys graph) trivial
    (fun _ _ => trivial) (by simp [idle]) (by simp [idle]) ?_
  rw [List.length_map, idle]
  exact deep

theorem recorded_of_effect {outer sources : List String} {ending : Ending}
    {result : EStateM.Result Stop (List String) Unit}
    (effect : Effect graph.recording outer sources ending result) :
    stateOf result = outer ++ sources := by
  cases effect with
  | finished asked => exact recorded_of_asked asked
  | cycle asked => exact recorded_of_asked asked
  | @refused middle _ before source _ split asked stopped =>
      subst split
      have earlier := recorded_of_asked asked
      cases found : graph.links source with
      | none =>
          obtain ⟨_, _, refused⟩ := recording_missing middle found
          rw [refused] at stopped
          cases stopped
          rw [earlier, List.append_assoc]
          rfl
      | some inner =>
          rw [recording_found middle found] at stopped
          cases stopped

theorem effect_not_too_deep {outer after sources : List String} {ending : Ending} {stop : Stop}
    (effect : Effect graph.recording outer sources ending (.error stop after)) :
    stop ≠ .tooDeep := by
  cases effect with
  | cycle => simp [Stop.because]
  | @refused middle _ _ source _ _ _ stopped =>
      cases found : graph.links source with
      | none =>
          obtain ⟨_, shallow, refused⟩ := recording_missing middle found
          rw [refused] at stopped
          cases stopped
          exact shallow
      | some inner =>
          rw [recording_found middle found] at stopped
          cases stopped

theorem not_refused {outer : List String} {visiting seen after : List String}
    {includes order : List Include} {ending : Ending}
    {result : EStateM.Result Stop (List String) Unit}
    (course : Course graph.links visiting seen includes order after ending)
    (effect : Effect graph.recording outer (sourcesOf order) ending result)
    (total : ∀ source, graph.links.Met seen includes source → (graph.links source).isSome) :
    ending ≠ .refused := by
  rintro rfl
  cases effect with
  | @refused middle _ before source _ split _ stopped =>
      have member : source ∈ sourcesOf order := by simp [split]
      have present := total source (course.order_met member)
      obtain ⟨inner, found⟩ := Option.isSome_iff_exists.mp present
      rw [recording_found middle found] at stopped
      cases stopped

/-- With nothing being walked and all sources found, a walk through a table finishes or closes a
cycle; in either case it has asked for what it has taken up. -/
theorem emit_recording_cases {depth : Nat} (deep : graph.depth ≤ depth)
    {includes : List Include} (walk : Walk (List String)) (idle : walk.visiting = [])
    (total : ∀ source, graph.links.Met walk.seen includes source → (graph.links source).isSome) :
    ∃ order seen,
      (Course graph.links [] walk.seen includes order seen .finished ∧
        emitWithin graph.recording depth includes walk =
          .ok () (walk.moved order seen (walk.outer ++ sourcesOf order))) ∨
      ∃ cycle, Course graph.links [] walk.seen includes order seen (.cycle cycle) ∧
        emitWithin graph.recording depth includes walk =
          .error (.because (.cycle cycle))
            (walk.moved order seen (walk.outer ++ sourcesOf order)) := by
  obtain ⟨order, seen, ending, outside, course, effect, same⟩ :=
    emit_recording_follows deep includes walk idle
  have recorded := recorded_of_effect effect
  have answered := not_refused course effect total
  rw [idle] at course
  refine ⟨order, seen, ?_⟩
  cases effect with
  | finished _ =>
      rw [← recorded]
      exact .inl ⟨course, same⟩
  | cycle _ =>
      rw [← recorded]
      exact .inr ⟨_, course, same⟩
  | refused _ _ _ => exact absurd rfl answered

end IncludeGraph

end ZigBindings
