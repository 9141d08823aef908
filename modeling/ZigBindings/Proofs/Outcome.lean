import Mathlib.Data.List.Basic
import ZigBindings.Action

/-!
# What actions come to

An action that is run from a state either gives a value or stops. What is true in either case is
put together along the way in which the action is made.
-/

namespace ZigBindings

namespace Action

variable {σ α β : Type} {state after : σ} {action : Action σ α} {good : α → σ → Prop}
  {bad : Stop → σ → Prop}

/-- Whether an action ends as described: in one way if it gives a value, in another if it stops. -/
structure Ends (action : Action σ α) (state : σ) (good : α → σ → Prop)
    (bad : Stop → σ → Prop) : Prop where
  of_ok : ∀ {value after}, action state = .ok value after → good value after
  of_error : ∀ {stop after}, action state = .error stop after → bad stop after

theorem ends_ok {value : α} (result : action state = .ok value after) (holds : good value after) :
    action.Ends state good bad := by
  constructor
  · intro value' after' same
    rw [result] at same
    cases same
    exact holds
  · intro stop after' same
    rw [result] at same
    cases same

theorem ends_error {stop : Stop} (result : action state = .error stop after)
    (holds : bad stop after) : action.Ends state good bad := by
  constructor
  · intro value after' same
    rw [result] at same
    cases same
  · intro stop' after' same
    rw [result] at same
    cases same
    exact holds

theorem Ends.mono {good' : α → σ → Prop} {bad' : Stop → σ → Prop}
    (ends : action.Ends state good bad)
    (onValue : ∀ value after, good value after → good' value after)
    (onStop : ∀ stop after, bad stop after → bad' stop after) : action.Ends state good' bad' :=
  ⟨fun result => onValue _ _ (ends.of_ok result), fun result => onStop _ _ (ends.of_error result)⟩

theorem Ends.of_same {other : Action σ α} {start : σ} (ends : other.Ends start good bad)
    (same : action state = other start) : action.Ends state good bad := by
  constructor
  · rw [same]
    exact ends.of_ok
  · rw [same]
    exact ends.of_error

theorem Ends.bind {next : α → Action σ β} {good : β → σ → Prop}
    (first : action.Ends state (fun value after => (next value).Ends after good bad) bad) :
    (action >>= next).Ends state good bad := by
  cases result : action state with
  | ok value after =>
      refine (first.of_ok result).of_same ?_
      rw [bind_apply, result]
  | error stop after =>
      refine ends_error ?_ (first.of_error result)
      rw [bind_apply, result]

theorem ends_modify {change : σ → σ} {good : PUnit → σ → Prop} (holds : good ⟨⟩ (change state)) :
    (modify change : Action σ PUnit).Ends state good bad :=
  ends_ok (modify_apply change state) holds

theorem Ends.mapStop {change : Stop → Stop}
    (ends : action.Ends state good fun stop after => bad (change stop) after) :
    (action.mapStop change).Ends state good bad := by
  cases result : action state with
  | ok value after => exact ends_ok (mapStop_of_ok change result) (ends.of_ok result)
  | error stop after => exact ends_error (mapStop_of_error change result) (ends.of_error result)

theorem ends_forM_nil {work : β → Action σ PUnit} {good : PUnit → σ → Prop}
    (holds : good ⟨⟩ state) : (([] : List β).forM work).Ends state good bad :=
  ends_ok (forM_nil_apply work state) holds

theorem Ends.forM_cons {work : β → Action σ PUnit} {item : β} {rest : List β}
    {good : PUnit → σ → Prop}
    (first : (work item).Ends state (fun _ after => (rest.forM work).Ends after good bad) bad) :
    ((item :: rest).forM work).Ends state good bad := by
  cases result : work item state with
  | ok value after =>
      refine (first.of_ok result).of_same ?_
      rw [forM_cons_apply, result]
  | error stop after =>
      refine ends_error ?_ (first.of_error result)
      rw [forM_cons_apply, result]

def returned? (action : Action σ α) (state : σ) : Option (α × σ) :=
  match action state with
  | .ok value after => some (value, after)
  | .error _ _ => none

def stopped? (action : Action σ α) (state : σ) : Option (Stop × σ) :=
  match action state with
  | .ok _ _ => none
  | .error stop after => some (stop, after)

theorem of_returned {result : α × σ} (returned : action.returned? state = some result) :
    action state = .ok result.1 result.2 := by
  unfold returned? at returned
  cases made : action state with
  | ok value after =>
      rw [made] at returned
      cases returned
      rfl
  | error stop after => simp [made] at returned

theorem of_stopped {result : Stop × σ} (stopped : action.stopped? state = some result) :
    action state = .error result.1 result.2 := by
  unfold stopped? at stopped
  cases made : action state with
  | ok value after => simp [made] at stopped
  | error stop after =>
      rw [made] at stopped
      cases stopped
      rfl

end Action

end ZigBindings
