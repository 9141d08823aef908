import ZigBindings.Proofs.Include.Walk

/-!
# Walks that are broken off

A walk can be broken off at any depth: by a cycle, by a source that is not resolved, or by a bound
on its depth. Nothing is assumed here of what resolves the sources: it may refuse any of them, and
it may give another answer each time. However a walk ends, its stack is afterwards what it was
before, and whatever has been finished has all that it includes finished. So whoever makes headers
one after the other, some of which fail, makes each as if it were the first.
-/

namespace ZigBindings

namespace Walk

variable {σ : Type} {resolve : Resolver σ}

/-- A resolver has been asked some questions one after the other: each time it has given the
includes of a source or has refused. -/
inductive Consulted (resolve : Resolver σ) :
    σ → List (String × Option (List Include)) → σ → Prop
  | nothing {outer : σ} : Consulted resolve outer [] outer
  | answered {outer middle after : σ} {source : String} {includes : List Include}
      {rest : List (String × Option (List Include))}
      (answer : resolve source outer = .ok includes middle)
      (others : Consulted resolve middle rest after) :
      Consulted resolve outer ((source, some includes) :: rest) after
  | refused {outer middle after : σ} {source : String} {stop : Stop}
      {rest : List (String × Option (List Include))}
      (refusal : resolve source outer = .error stop middle)
      (others : Consulted resolve middle rest after) :
      Consulted resolve outer ((source, none) :: rest) after

theorem Consulted.append {outer middle after : σ}
    {first second : List (String × Option (List Include))}
    (consulted : Consulted resolve outer first middle)
    (further : Consulted resolve middle second after) :
    Consulted resolve outer (first ++ second) after := by
  induction consulted with
  | nothing => exact further
  | answered answer _ ih => exact .answered answer (ih further)
  | refused refusal _ ih => exact .refused refusal (ih further)

/-- What a walk has come to since an earlier moment, by the questions asked in between. -/
structure Progress (walk after : Walk σ) (questions : List (String × Option (List Include))) :
    Prop where
  stack : after.visiting = walk.visiting
  lines : walk.lines <+: after.lines
  kept : walk.seen ⊆ after.seen
  closed : ∀ source ∈ after.seen, source ∉ walk.seen →
    ∃ includes, (source, some includes) ∈ questions ∧ sourcesOf includes ⊆ after.seen
  fresh : ∀ question ∈ questions, question.1 ∉ walk.seen ∧ question.1 ∉ walk.visiting
  once : (questions.map Prod.fst).Nodup

/-- A walk of some includes has asked some questions and made progress by them. If it has finished,
the includes are finished, and so is all that it asked for. -/
structure Walked (resolve : Resolver σ) (walk : Walk σ) (includes : List Include)
    (result : EStateM.Result Stop (Walk σ) Unit)
    (questions : List (String × Option (List Include))) : Prop where
  consulted : Consulted resolve walk.outer questions (stateOf result).outer
  progress : Progress walk (stateOf result) questions
  finished : ∀ after, result = .ok () after →
    sourcesOf includes ⊆ after.seen ∧ ∀ question ∈ questions, question.1 ∈ after.seen

section Progress

variable {walk middle after : Walk σ} {first second : List (String × Option (List Include))}

theorem progress_of_nothing (walk : Walk σ) : Progress walk walk [] where
  stack := rfl
  lines := List.prefix_rfl
  kept := List.Subset.refl _
  closed := fun _ member fresh => absurd member fresh
  fresh := by simp
  once := List.nodup_nil

theorem Progress.trans (progress : Progress walk middle first)
    (done : ∀ question ∈ first, question.1 ∈ middle.seen)
    (further : Progress middle after second) : Progress walk after (first ++ second) where
  stack := further.stack.trans progress.stack
  lines := progress.lines.trans further.lines
  kept := List.Subset.trans progress.kept further.kept
  closed := by
    intro source member fresh
    by_cases early : source ∈ middle.seen
    · obtain ⟨includes, asked, inside⟩ := progress.closed source early fresh
      exact ⟨includes, List.mem_append_left _ asked, List.Subset.trans inside further.kept⟩
    · obtain ⟨includes, asked, inside⟩ := further.closed source member early
      exact ⟨includes, List.mem_append_right _ asked, inside⟩
  fresh := by
    intro question member
    rcases List.mem_append.mp member with early | late
    · exact progress.fresh question early
    · obtain ⟨unseen, shut⟩ := further.fresh question late
      exact ⟨fun old => unseen (progress.kept old), progress.stack ▸ shut⟩
  once := by
    rw [List.map_append]
    refine List.nodup_append.mpr ⟨progress.once, further.once, ?_⟩
    rintro name early _ late rfl
    obtain ⟨question, asked, rfl⟩ := List.mem_map.mp early
    obtain ⟨other, askedLater, same⟩ := List.mem_map.mp late
    exact (further.fresh other askedLater).1 (same ▸ done question asked)

end Progress

section Visit

variable {descend : List Include → Action (Walk σ) Unit} {entry : Include} {walk : Walk σ}

theorem refused_progress (fresh : entry.source ∉ walk.seen) (shut : entry.source ∉ walk.visiting)
    (outer : σ) :
    Progress walk (walk.moved [entry] walk.seen outer) [(entry.source, none)] where
  stack := rfl
  lines := List.prefix_append _ _
  kept := List.Subset.refl _
  closed := fun _ member unseen => absurd member unseen
  fresh := by simpa using ⟨fresh, shut⟩
  once := List.nodup_singleton _

theorem below_progress (fresh : entry.source ∉ walk.seen) (shut : entry.source ∉ walk.visiting)
    (inner : List Include) {outer : σ} {lower : Walk σ}
    {below : List (String × Option (List Include))}
    (progress : Progress (walk.inside entry outer) lower below) :
    Progress walk (leave lower) ((entry.source, some inner) :: below) where
  stack := by
    rw [leave, progress.stack, inside, List.dropLast_concat]
  lines := (List.prefix_append _ _).trans progress.lines
  kept := progress.kept
  closed := by
    intro source member unseen
    obtain ⟨includes, asked, listed⟩ := progress.closed source member unseen
    exact ⟨includes, List.mem_cons_of_mem _ asked, listed⟩
  fresh := by
    refine List.forall_mem_cons.mpr ⟨⟨fresh, shut⟩, fun question asked => ?_⟩
    obtain ⟨unseen, outside⟩ := progress.fresh question asked
    exact ⟨unseen, fun member => outside (List.mem_append_left _ member)⟩
  once := by
    refine List.nodup_cons.mpr ⟨fun again => ?_, progress.once⟩
    obtain ⟨question, asked, same⟩ := List.mem_map.mp again
    exact (progress.fresh question asked).2 (by simp [inside, same])

theorem Progress.finish {after : Walk σ} {inner : List Include}
    {questions : List (String × Option (List Include))} (progress : Progress walk after questions)
    (asked : (entry.source, some inner) ∈ questions) (done : sourcesOf inner ⊆ after.seen) :
    Progress walk (finish entry.source after) questions where
  stack := progress.stack
  lines := progress.lines
  kept := List.subset_append_of_subset_left _ progress.kept
  closed := by
    intro source member unseen
    rcases List.mem_append.mp member with early | last
    · obtain ⟨includes, answered, listed⟩ := progress.closed source early unseen
      exact ⟨includes, answered, List.subset_append_of_subset_left _ listed⟩
    · rw [List.mem_singleton.mp last]
      exact ⟨inner, asked, List.subset_append_of_subset_left _ done⟩
  fresh := progress.fresh
  once := progress.once

theorem visit_walked
    (descends : ∀ inner (lower : Walk σ),
      ∃ questions, Walked resolve lower inner (descend inner lower) questions) :
    ∃ questions, Walked resolve walk [entry] (visit resolve descend entry walk) questions := by
  by_cases known : entry.source ∈ walk.seen
  · rw [visit_known known]
    refine ⟨[], .nothing, progress_of_nothing walk, ?_⟩
    rintro _ ⟨⟩
    exact ⟨by simpa using known, by simp⟩
  by_cases open_ : entry.source ∈ walk.visiting
  · rw [visit_open known open_]
    exact ⟨[], .nothing, progress_of_nothing walk, nofun⟩
  cases answered : resolve entry.source walk.outer with
  | error stop outer =>
      rw [visit_refused known open_ answered]
      exact ⟨[(entry.source, none)], .refused answered .nothing,
        refused_progress known open_ outer, nofun⟩
  | ok inner outer =>
      obtain ⟨below, walked⟩ := descends inner (walk.inside entry outer)
      have consulted := Consulted.answered answered walked.consulted
      have progress := below_progress known open_ inner walked.progress
      rw [visit_resolved known open_ answered]
      refine ⟨(entry.source, some inner) :: below, ?_⟩
      cases descent : descend inner (walk.inside entry outer) with
      | error stop lower =>
          rw [descent] at consulted progress
          exact ⟨consulted, progress, nofun⟩
      | ok _ lower =>
          rw [descent] at consulted progress
          obtain ⟨listed, done⟩ := walked.finished lower descent
          -- All that the entry includes is finished by now, so that it may be itself.
          refine ⟨consulted, progress.finish List.mem_cons_self listed, ?_⟩
          rintro _ ⟨⟩
          refine ⟨by simp [finish], List.forall_mem_cons.mpr ⟨by simp [finish], ?_⟩⟩
          exact fun question asked => List.mem_append_left _ (done question asked)

end Visit

theorem siblings_walked {descend : List Include → Action (Walk σ) Unit}
    (descends : ∀ inner (lower : Walk σ),
      ∃ questions, Walked resolve lower inner (descend inner lower) questions)
    (includes : List Include) (walk : Walk σ) :
    ∃ questions, Walked resolve walk includes (includes.forM (visit resolve descend) walk)
      questions := by
  induction includes generalizing walk with
  | nil =>
      refine ⟨[], .nothing, progress_of_nothing walk, ?_⟩
      simp
  | cons entry rest ih =>
      obtain ⟨first, walked⟩ := @visit_walked _ _ descend entry walk descends
      rw [Action.forM_cons_apply]
      cases visited : visit resolve descend entry walk with
      | error stop after =>
          rw [visited] at walked
          exact ⟨first, walked.consulted, walked.progress, nofun⟩
      | ok _ middle =>
          rw [visited] at walked
          obtain ⟨here, done⟩ := walked.finished middle rfl
          obtain ⟨second, later⟩ := ih middle
          -- What the rest asks for is new, because all that was asked for before is finished.
          refine ⟨first ++ second, walked.consulted.append later.consulted,
            walked.progress.trans done later.progress, fun after finished => ?_⟩
          obtain ⟨others, doneLater⟩ := later.finished after finished
          have kept : middle.seen ⊆ after.seen := by
            have further := later.progress.kept
            rwa [show rest.forM (visit resolve descend) middle = .ok () after from finished]
              at further
          refine ⟨?_, List.forall_mem_append.mpr ⟨fun question asked => ?_, doneLater⟩⟩
          · exact List.cons_subset.mpr ⟨kept (here (by simp)), others⟩
          · exact kept (done question asked)

/-- However deep a walk may go and however it ends, it has made progress by what it asked. -/
theorem emit_walked (depth : Nat) (includes : List Include) (walk : Walk σ) :
    ∃ questions, Walked resolve walk includes (emitWithin resolve depth includes walk)
      questions := by
  induction depth generalizing includes walk with
  | zero =>
      refine ⟨[], ?_⟩
      cases includes with
      | nil => exact ⟨.nothing, progress_of_nothing walk, by simp⟩
      | cons entry rest => exact ⟨.nothing, progress_of_nothing walk, nofun⟩
  | succ depth ih => exact siblings_walked ih includes walk

/-- A walk that headers have been made with, one after the other, each of which may have been made
or not. What is outside may change in between. -/
inductive Served (resolve : Resolver σ) : Walk σ → Prop
  | start (outer : σ) : Served resolve { outer }
  | meanwhile {walk : Walk σ} (served : Served resolve walk) (outer : σ) :
      Served resolve { walk with outer }
  | made {walk : Walk σ} (served : Served resolve walk) (depth : Nat) (name : String)
      (includes : List Include) :
      Served resolve (stateOf (header resolve depth name includes walk))

theorem header_stack (depth : Nat) (name : String) (includes : List Include) (walk : Walk σ) :
    (stateOf (header resolve depth name includes walk)).visiting = walk.visiting := by
  obtain ⟨_, walked⟩ := @emit_walked _ resolve depth includes { walk with seen := [], lines := [] }
  have restored := walked.progress.stack
  rw [header_apply]
  cases emitted : emitWithin resolve depth includes { walk with seen := [], lines := [] } with
  | ok _ after =>
      rw [emitted] at restored
      exact restored
  | error stop after =>
      rw [emitted] at restored
      exact restored

theorem Served.idle {walk : Walk σ} (served : Served resolve walk) : walk.visiting = [] := by
  induction served with
  | start _ => rfl
  | meanwhile _ _ ih => exact ih
  | made _ depth name includes ih => rw [header_stack, ih]

theorem header_of_idle {walk : Walk σ} (idle : walk.visiting = []) (depth : Nat) (name : String)
    (includes : List Include) :
    header resolve depth name includes walk =
      header resolve depth name includes { outer := walk.outer } := by
  rw [header_apply, header_apply, idle]

/-- Whatever state a walk starts in, whatever its resolver does and however it ends, its stack is
afterwards what it was before, lines have only been added to its lines, what was finished still is,
and each source that is newly finished was resolved on the way, once, and has all that it was then
said to include finished with it. So a header is made after any number of others, made or broken
off, as it is made at the start. -/
theorem headers_unaffected_by_earlier (resolve : Resolver σ) :
    (∀ (depth : Nat) (includes : List Include) (walk : Walk σ),
      let after := stateOf (emitWithin resolve depth includes walk)
      after.visiting = walk.visiting ∧ walk.lines <+: after.lines ∧ walk.seen ⊆ after.seen ∧
      ∃ questions, Consulted resolve walk.outer questions after.outer ∧
        (questions.map Prod.fst).Nodup ∧
        ∀ source ∈ after.seen, source ∉ walk.seen →
          ∃ includes, (source, some includes) ∈ questions ∧ sourcesOf includes ⊆ after.seen) ∧
    ∀ walk, Served resolve walk → ∀ (depth : Nat) (name : String) (includes : List Include),
      header resolve depth name includes walk =
        header resolve depth name includes { outer := walk.outer } := by
  refine ⟨fun depth includes walk => ?_, fun walk served => header_of_idle served.idle⟩
  obtain ⟨questions, consulted, progress, _⟩ := @emit_walked _ resolve depth includes walk
  exact ⟨progress.stack, progress.lines, progress.kept, questions, consulted, progress.once,
    progress.closed⟩

def gappedIncludes : IncludeGraph :=
  [("A-1.gir", [⟨"B", "1"⟩, ⟨"C", "1"⟩]), ("B-1.gir", [])]

/-- The walk that is broken off two sources deep. -/
def gappedWalk : Walk (List String) :=
  stateOf (header gappedIncludes.recording 3 "X" [⟨"A", "1"⟩] { outer := [] })

theorem headers_unaffected_by_earlier_gapped :
    Served gappedIncludes.recording gappedWalk ∧ gappedWalk.seen = ["B-1.gir"] ∧
      gappedWalk.lines ≠ [] ∧
      ∃ after, header gappedIncludes.recording 3 "Y" [⟨"B", "1"⟩] gappedWalk =
        .ok [importLine "B"] after := by
  have served : Served gappedIncludes.recording gappedWalk := .made (.start []) 3 "X" _
  obtain ⟨_, same⟩ := headers_unaffected_by_earlier gappedIncludes.recording
  refine ⟨served, by decide +kernel, by decide +kernel, ?_⟩
  rw [same gappedWalk served]
  exact ⟨_, rfl⟩

end Walk

end ZigBindings
