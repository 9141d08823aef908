import Mathlib.Tactic.SplitIfs
import ZigBindings.Repository.Reader

/-!
# How documents are refused

Whatever is missing or wrong in a document, the failure is one of its schema and its details are the
path of the document. Only the encoding of a document can stop its reading in another way.
-/

namespace ZigBindings

open ZigBindings.Markup

/-- A stop that says nothing but that the document at `path` is not acceptable. -/
def Stop.IsRefusal (path : String) (stop : Stop) : Prop :=
  ∃ cause : Cause, stop = .because cause ∧ cause.kind = .schema ∧
    cause.details = [("path", .text path)]

/-- A reading that stops for no other reason than that the document is not acceptable. -/
def Refuses {α : Type} (path : String) (result : Except Stop α) : Prop :=
  ∀ stop, result = .error stop → stop.IsRefusal path

section Refuses

variable {α β : Type} {path : String}

theorem refuses_ok (value : α) : Refuses path (.ok value) := by
  intro stop refused
  cases refused

theorem refuses_because {cause : Cause} (schema : cause.kind = .schema)
    (details : cause.details = [("path", .text path)]) :
    Refuses path (.error (.because cause) : Except Stop α) := by
  intro stop refused
  cases refused
  exact ⟨cause, rfl, schema, details⟩

theorem Refuses.bind {result : Except Stop α} {next : α → Except Stop β}
    (first : Refuses path result) (later : ∀ value, Refuses path (next value)) :
    Refuses path (result >>= next) := by
  intro stop refused
  cases result with
  | ok value => exact later value stop refused
  | error stop' =>
      cases refused
      exact first _ rfl

theorem Refuses.map {result : Except Stop α} (change : α → β) (refuses : Refuses path result) :
    Refuses path (change <$> result) := by
  intro stop refused
  cases result with
  | ok value => cases refused
  | error stop' =>
      cases refused
      exact refuses _ rfl

theorem refuses_mapM {read : α → Except Stop β} {items : List α}
    (each : ∀ item, Refuses path (read item)) : Refuses path (items.mapM read) := by
  induction items with
  | nil => exact refuses_ok []
  | cons item rest ih =>
      rw [List.mapM_cons]
      exact (each item).bind fun value => ih.bind fun values => refuses_ok (value :: values)

theorem refuses_ite {α : Type} {path : String} {condition : Prop} [Decidable condition]
    {first second : Except Stop α} (holds : Refuses path first) (fails : Refuses path second) :
    Refuses path (if condition then first else second) := by
  by_cases decided : condition
  · rw [if_pos decided]
    exact holds
  · rw [if_neg decided]
    exact fails

end Refuses

namespace Reader

theorem required_eq_ok_iff {path name value : String} {node : Node} :
    required path node name = .ok value ↔ attribute? node name = some value := by
  unfold required
  cases attribute? node name with
  | none => simp
  | some found => simp

variable (path : String) (node : Node)

theorem required_refuses (name : String) : Refuses path (required path node name) := by
  unfold required
  cases attribute? node name with
  | some value => exact refuses_ok value
  | none => exact refuses_because rfl rfl

theorem array_size_refuses : Refuses path (arraySize path node) := by
  unfold arraySize
  cases attribute? node "fixed-size" with
  | none => exact refuses_ok none
  | some value =>
      dsimp only
      cases Text.integer? value.toList with
      | some size => exact refuses_ok (some size)
      | none => exact refuses_because rfl rfl

theorem type_among_refuses (nodes : List Node) : Refuses path (typeAmong path nodes) := by
  fun_induction typeAmong path nodes with
  | case1 => exact refuses_ok _
  | case2 _ _ ih => exact ih
  | case3 => exact refuses_ok _
  | case4 => exact refuses_ok _
  | case5 _ _ _ node _ _ ih =>
      exact (array_size_refuses path node).bind fun _ => ih.bind fun _ => refuses_ok _
  | case6 _ _ _ _ _ _ ih => exact ih

theorem type_of_refuses : Refuses path (typeOf path node) :=
  type_among_refuses path node.children

theorem parameter_refuses : Refuses path (parameter path node) := by
  unfold parameter
  apply refuses_ite
  · exact (required_refuses path node _).bind fun _ =>
      (type_of_refuses path node).bind fun _ => refuses_ok _
  apply refuses_ite
  · apply refuses_ite
    · exact (refuses_ok _).bind fun _ => (required_refuses path node _).bind fun _ => refuses_ok _
    · exact ((type_of_refuses path node).map _).bind fun _ =>
        (required_refuses path node _).bind fun _ => refuses_ok _
  · exact refuses_ok none

theorem parameters_refuses : Refuses path (parameters path node) := by
  unfold parameters
  cases node.childTagged? (core "parameters") with
  | none => exact refuses_ok []
  | some list => exact (refuses_mapM (parameter_refuses path)).bind fun _ => refuses_ok _

theorem return_value_refuses : Refuses path (returnValue path node) := by
  unfold returnValue
  cases node.childTagged? (core "return-value") with
  | none => exact refuses_ok _
  | some child => exact (type_of_refuses path child).bind fun _ => refuses_ok _

theorem callback_refuses : Refuses path (callback path node) :=
  (parameters_refuses path node).bind fun _ =>
    (return_value_refuses path node).bind fun _ => refuses_ok _

theorem callable_refuses : Refuses path (callable path node) :=
  (required_refuses path node _).bind fun _ =>
    (parameters_refuses path node).bind fun _ =>
      (return_value_refuses path node).bind fun _ => refuses_ok _

theorem signal_refuses : Refuses path (signal path node) :=
  (required_refuses path node _).bind fun _ =>
    (parameters_refuses path node).bind fun _ =>
      (return_value_refuses path node).bind fun _ => refuses_ok _

theorem constant_refuses : Refuses path (constant path node) :=
  (required_refuses path node _).bind fun _ =>
    (type_of_refuses path node).bind fun _ =>
      (required_refuses path node _).bind fun _ => refuses_ok _

theorem field_refuses : Refuses path (field path node) := by
  unfold field
  cases node.childTagged? (core "callback") with
  | some child =>
      exact ((callback_refuses path child).map _).bind fun _ =>
        (required_refuses path node _).bind fun _ => refuses_ok _
  | none =>
      exact ((type_of_refuses path node).map _).bind fun _ =>
        (required_refuses path node _).bind fun _ => refuses_ok _

theorem member_refuses : Refuses path (member path node) := by
  refine (required_refuses path node _).bind fun value => ?_
  cases Text.integer? value.toList with
  | none => exact refuses_because rfl rfl
  | some number => exact (required_refuses path node _).bind fun _ => refuses_ok _

theorem each_refuses {α : Type} {read : Node → Except Stop α} (tag : ExpandedName)
    (refuses : ∀ child, Refuses path (read child)) : Refuses path (each node tag read) :=
  refuses_mapM refuses

theorem alias_refuses : Refuses path (aliasEntry path node) :=
  (required_refuses path node _).bind fun _ => refuses_ok _

theorem class_refuses : Refuses path (classEntry path node) :=
  (required_refuses path node _).bind fun _ =>
    (each_refuses path node _ (field_refuses path)).bind fun _ =>
      (each_refuses path node _ (callable_refuses path)).bind fun _ =>
        (each_refuses path node _ (callable_refuses path)).bind fun _ =>
          (each_refuses path node _ (callable_refuses path)).bind fun _ =>
            (each_refuses path node _ (signal_refuses path)).bind fun _ =>
              (each_refuses path node _ (constant_refuses path)).bind fun _ => refuses_ok _

theorem interface_refuses : Refuses path (interfaceEntry path node) :=
  (required_refuses path node _).bind fun _ =>
    (each_refuses path node _ (callable_refuses path)).bind fun _ =>
      (each_refuses path node _ (callable_refuses path)).bind fun _ =>
        (each_refuses path node _ (callable_refuses path)).bind fun _ =>
          (each_refuses path node _ (signal_refuses path)).bind fun _ =>
            (each_refuses path node _ (constant_refuses path)).bind fun _ => refuses_ok _

theorem compound_refuses : Refuses path (compoundEntry path node) :=
  (required_refuses path node _).bind fun _ =>
    (each_refuses path node _ (field_refuses path)).bind fun _ =>
      (each_refuses path node _ (callable_refuses path)).bind fun _ =>
        (each_refuses path node _ (callable_refuses path)).bind fun _ =>
          (each_refuses path node _ (callable_refuses path)).bind fun _ => refuses_ok _

theorem enumeration_refuses : Refuses path (enumerationEntry path node) :=
  (each_refuses path node _ (member_refuses path)).bind fun _ =>
    (each_refuses path node _ (callable_refuses path)).bind fun _ =>
      (required_refuses path node _).bind fun _ => refuses_ok _

theorem entry_refuses : Refuses path (entry path node) := by
  unfold entry
  apply refuses_ite
  · exact ((alias_refuses path node).map _).map _
  apply refuses_ite
  · exact ((class_refuses path node).map _).map _
  apply refuses_ite
  · exact ((interface_refuses path node).map _).map _
  apply refuses_ite
  · exact ((compound_refuses path node).map _).map _
  apply refuses_ite
  · exact ((compound_refuses path node).map _).map _
  apply refuses_ite
  · exact ((enumeration_refuses path node).map _).map _
  apply refuses_ite
  · exact ((enumeration_refuses path node).map _).map _
  apply refuses_ite
  · exact ((callable_refuses path node).map _).map _
  apply refuses_ite
  · exact ((callback_refuses path node).map _).map _
  apply refuses_ite
  · exact ((constant_refuses path node).map _).map _
  · exact refuses_ok none

theorem namespace_refuses : Refuses path (namespaceEntry path node) :=
  (required_refuses path node _).bind fun _ =>
    (refuses_mapM (entry_refuses path)).bind fun _ => refuses_ok _

theorem include_refuses : Refuses path (includeEntry path node) :=
  (required_refuses path node _).bind fun _ =>
    (required_refuses path node _).bind fun _ => refuses_ok _

/-- A tree is refused for no other reason than that it describes no repository. -/
theorem repository_refuses : Refuses path (repository path node) := by
  unfold repository
  split_ifs
  · exact (each_refuses path node _ (include_refuses path)).bind fun _ =>
      (each_refuses path node _ (namespace_refuses path)).bind fun _ => refuses_ok _
  · exact refuses_because rfl rfl

end Reader

theorem read_refusal {path : String} {source : Source} {stop : Stop}
    (refused : Repository.read path source = .error stop) :
    stop.IsRefusal path ∨ ∃ name, stop = .unknownEncoding name := by
  unfold Repository.read at refused
  cases outcome : source.read with
  | tree root =>
      rw [outcome] at refused
      exact .inl (Reader.repository_refuses path root stop refused)
  | malformed =>
      rw [outcome] at refused
      cases refused
      exact .inl ⟨_, rfl, rfl, rfl⟩
  | unknownEncoding name =>
      rw [outcome] at refused
      cases refused
      exact .inr ⟨name, rfl⟩

end ZigBindings
