import Mathlib.Data.List.Basic
import ZigBindings.Proofs.Generation.Document

/-!
# The registry

What is registered in a run, in which order, and how it grows: a name that is registered stays so,
for the same repository. With every registration fewer of some given names are missing.
-/

namespace ZigBindings

/-- What was registered before is registered after, under the same name. -/
def Run.Grown {τ : Type} (before after : Run τ) : Prop :=
  ∀ name loaded, before.registered? name = some loaded → after.registered? name = some loaded

section Grown

variable {τ : Type} {before middle after : Run τ}

theorem grown_refl (run : Run τ) : run.Grown run :=
  fun _ _ known => known

theorem Run.Grown.trans (first : before.Grown middle) (second : middle.Grown after) :
    before.Grown after :=
  fun name loaded known => second name loaded (first name loaded known)

theorem Run.Grown.fresh (grown : before.Grown after) {name : String}
    (fresh : after.registered? name = none) : before.registered? name = none := by
  cases known : before.registered? name with
  | none => rfl
  | some loaded =>
      rw [grown name loaded known] at fresh
      cases fresh

theorem grown_of_registry (same : after.registry = before.registry) : before.Grown after := by
  intro name loaded known
  unfold Run.registered? at known ⊢
  rw [same]
  exact known

theorem grown_note (run : Run τ) (records : List LogRecord) : run.Grown (run.note records) :=
  grown_of_registry rfl

theorem grown_register {name : String} (fresh : before.registered? name = none) (loaded : Loaded) :
    before.Grown (before.register name loaded) := by
  intro other old known
  rw [Run.registered_register, if_neg]
  · exact known
  · rintro rfl
    rw [fresh] at known
    cases known

theorem grown_enlist {name : String} (fresh : before.registered? name = none) (directory : Path)
    (repository : Repository) : before.Grown (before.enlist directory name repository) := by
  have opened : (before.opened directory name).registered? name = none := fresh
  exact (grown_of_registry rfl).trans (grown_register opened _)

def Run.missing (run : Run τ) (names : List String) : List String :=
  names.filter fun name => (run.registered? name).isNone

theorem missing_le_of_grown (grown : before.Grown after) (names : List String) :
    (after.missing names).length ≤ (before.missing names).length := by
  refine (List.monotone_filter_right names ?_).length_le
  intro name absent
  cases known : before.registered? name with
  | none => rfl
  | some loaded =>
      rw [grown name loaded known] at absent
      cases absent

theorem missing_lt_of_register {name : String} {names : List String} (listed : name ∈ names)
    (fresh : before.registered? name = none) (grown : before.Grown after)
    (known : (after.registered? name).isSome) :
    (after.missing names).length < (before.missing names).length := by
  have within : after.missing names =
      (before.missing names).filter fun other => (after.registered? other).isNone := by
    unfold Run.missing
    rw [List.filter_filter]
    refine List.filter_congr fun other _ => ?_
    cases old : before.registered? other with
    | none => simp
    | some loaded => simp [grown other loaded old]
  rw [within, List.length_filter_lt_length_iff_exists]
  refine ⟨name, List.mem_filter.mpr ⟨listed, by simp [fresh]⟩, ?_⟩
  cases held : after.registered? name with
  | none => simp [held] at known
  | some loaded => simp

end Grown

namespace Run

variable {τ : Type} {run before middle after : Run τ}

def names (run : Run τ) : List String :=
  run.registry.map Prod.fst

def announced (run : Run τ) : List LogRecord :=
  run.log.filter (·.level = .info)

theorem registered_iff {name : String} :
    (run.registered? name).isSome ↔ name ∈ run.names := by
  unfold registered? names
  rw [List.lookup_isSome_iff, List.mem_map]
  simp only [beq_iff_eq]
  exact exists_congr fun _ => and_congr_right fun _ => eq_comm

theorem not_registered_iff {name : String} :
    run.registered? name = none ↔ name ∉ run.names := by
  rw [← registered_iff, Option.not_isSome_iff_eq_none]

theorem enlist_of_fresh (directory : Path) {name : String} (repository : Repository)
    (fresh : run.registered? name = none) :
    run.enlist directory name repository =
      { run with
        registry := run.registry ++ [(name, ⟨run.readings, repository⟩)]
        readings := run.readings + 1
        log := run.log ++ [.parsing (directory.below name).text] } := by
  have absent : ¬(run.registry.lookup name).isSome := by
    rw [Option.not_isSome_iff_eq_none]
    exact fresh
  simp only [enlist, opened, note, register, absent, Bool.false_eq_true, if_false]

theorem announced_concat {text : String} (noted : after.log = before.log ++ [.parsing text]) :
    after.announced = before.announced ++ [.parsing text] := by
  unfold announced
  rw [noted, List.filter_append]
  rfl

structure Quiet (before after : Run τ) : Prop where
  registry : after.registry = before.registry
  readings : after.readings = before.readings
  announced : after.announced = before.announced

theorem Quiet.trans (first : before.Quiet middle) (second : middle.Quiet after) :
    before.Quiet after :=
  ⟨second.registry.trans first.registry, second.readings.trans first.readings,
    second.announced.trans first.announced⟩

theorem Quiet.names (quiet : before.Quiet after) : after.names = before.names :=
  congrArg (List.map Prod.fst) quiet.registry

theorem quiet_note {records : List LogRecord} (quiet : ∀ record ∈ records, record.level = .debug) :
    run.Quiet (run.note records) := by
  have silent : records.filter (·.level = .info) = [] := by
    rw [List.filter_eq_nil_iff]
    intro record member
    rw [quiet record member]
    decide
  refine ⟨rfl, rfl, ?_⟩
  unfold announced note
  rw [List.filter_append, silent, List.append_nil]

end Run

end ZigBindings
