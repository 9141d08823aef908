import ZigBindings.Failure

/-!
# Actions

Work on a state that may stop early. What was done to the state before the stop stays done.
-/

namespace ZigBindings

abbrev Action (σ α : Type) := EStateM Stop σ α

namespace Action

def mapStop {σ α : Type} (change : Stop → Stop) (action : Action σ α) : Action σ α := fun state =>
  match action state with
  | .ok value after => .ok value after
  | .error stop after => .error (change stop) after

/-- Changes the state before and after an action, also after one that stops. -/
def between {σ α : Type} (before after : σ → σ) (action : Action σ α) : Action σ α := fun state =>
  match action (before state) with
  | .ok value state => .ok value (after state)
  | .error stop state => .error stop (after state)

def onPart {σ τ α : Type} (part : τ → σ) (replace : σ → τ → τ) (action : Action σ α) :
    Action τ α := fun whole =>
  match action (part whole) with
  | .ok value state => .ok value (replace state whole)
  | .error stop state => .error stop (replace state whole)

def ofExcept {σ α : Type} : Except Stop α → Action σ α
  | .ok value => pure value
  | .error stop => throw stop

section Apply

variable {σ α β : Type}

@[simp]
theorem pure_apply (value : α) (state : σ) : (pure value : Action σ α) state = .ok value state :=
  rfl

@[simp]
theorem bind_apply (first : Action σ α) (next : α → Action σ β) (state : σ) :
    (first >>= next) state =
      match first state with
      | .ok value after => next value after
      | .error stop after => .error stop after := by
  simp only [bind, EStateM.bind]
  cases first state <;> rfl

@[simp]
theorem map_apply (change : α → β) (action : Action σ α) (state : σ) :
    (change <$> action) state =
      match action state with
      | .ok value after => .ok (change value) after
      | .error stop after => .error stop after := by
  simp only [Functor.map, EStateM.map]
  cases action state <;> rfl

@[simp]
theorem get_apply (state : σ) : (get : Action σ σ) state = .ok state state := rfl

@[simp]
theorem set_apply (new state : σ) : (set new : Action σ PUnit) state = .ok ⟨⟩ new := rfl

@[simp]
theorem modify_apply (change : σ → σ) (state : σ) :
    (modify change : Action σ PUnit) state = .ok ⟨⟩ (change state) := rfl

@[simp]
theorem throw_apply (stop : Stop) (state : σ) : (throw stop : Action σ α) state = .error stop state :=
  rfl

theorem mapStop_of_ok {action : Action σ α} {state after : σ} {value : α} (change : Stop → Stop)
    (result : action state = .ok value after) : action.mapStop change state = .ok value after := by
  rw [mapStop, result]

theorem mapStop_of_error {action : Action σ α} {state after : σ} {stop : Stop}
    (change : Stop → Stop) (result : action state = .error stop after) :
    action.mapStop change state = .error (change stop) after := by
  rw [mapStop, result]

theorem forM_nil_apply (action : α → Action σ PUnit) (state : σ) :
    ([] : List α).forM action state = .ok ⟨⟩ state :=
  rfl

theorem forM_cons_apply (action : α → Action σ PUnit) (item : α) (rest : List α) (state : σ) :
    (item :: rest).forM action state =
      match action item state with
      | .ok _ after => rest.forM action after
      | .error stop after => .error stop after := by
  change (forM (item :: rest) action : Action σ PUnit) state = _
  rw [List.forM_cons, bind_apply]
  cases action item state <;> rfl

end Apply

end Action

end ZigBindings
