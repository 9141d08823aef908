import ZigBindings.Proofs.Repository.Refusal
import ZigBindings.Proofs.Repository.Rules

/-!
# Which documents are accepted

A tree is read as a repository exactly if its root is one and every element that is looked at obeys
its rule. Each reader accepts exactly the elements that are sound in its role; what is proved of a
reader uses the readers it is made of by name only.
-/

namespace ZigBindings

open ZigBindings.Markup

def Accepted {α : Type} (result : Except Stop α) : Prop :=
  ∃ value, result = .ok value

section Accepted

variable {α β : Type}

@[simp]
theorem accepted_ok (value : α) : Accepted (.ok value) :=
  ⟨value, rfl⟩

@[simp]
theorem accepted_pure (value : α) : Accepted (pure value : Except Stop α) :=
  ⟨value, rfl⟩

@[simp]
theorem not_accepted_error (stop : Stop) : ¬Accepted (.error stop : Except Stop α) := by
  rintro ⟨_, absurd⟩
  cases absurd

theorem accepted_bind_iff {result : Except Stop α} {next : α → Except Stop β} {sound : Prop}
    (later : ∀ value, result = .ok value → (Accepted (next value) ↔ sound)) :
    Accepted (result >>= next) ↔ Accepted result ∧ sound := by
  cases result with
  | error stop => simp [bind, Except.bind]
  | ok value => simpa [bind, Except.bind] using later value rfl

theorem accepted_then_pure_iff {result : Except Stop α} {finish : α → β} :
    (Accepted do
      let value ← result
      return finish value) ↔ Accepted result := by
  rw [@accepted_bind_iff _ _ _ _ True fun value _ => by simp, and_true]

@[simp]
theorem accepted_map_iff {result : Except Stop α} {change : α → β} :
    Accepted (change <$> result) ↔ Accepted result := by
  cases result <;> simp [Functor.map, Except.map]

theorem accepted_mapM_iff {read : α → Except Stop β} {items : List α} :
    Accepted (items.mapM read) ↔ ∀ item ∈ items, Accepted (read item) := by
  induction items with
  | nil => simp
  | cons item rest ih =>
      rw [List.mapM_cons, List.forall_mem_cons, ← ih]
      exact accepted_bind_iff fun value _ => accepted_then_pure_iff

theorem accepted_ite_iff {condition : Prop} [Decidable condition] {first second : Except Stop α} :
    Accepted (if condition then first else second) ↔
      (condition → Accepted first) ∧ (¬condition → Accepted second) := by
  by_cases decided : condition <;> simp [decided]

end Accepted

namespace Reader

variable {path : String} {node : Node} {nodes : List Node}

theorem required_accepted_iff {name : String} :
    Accepted (required path node name) ↔ (attribute? node name).isSome := by
  unfold required
  cases attribute? node name <;> simp

theorem sound_of_needs (role : Role) (plain : role.number? = none) :
    role.Sound node ↔ (∀ name ∈ role.needs, (attribute? node name).isSome) ∧
      ∀ inner ∈ role.within node, inner.1.Sound inner.2 := by
  rw [Role.sound_iff]
  refine and_congr_left fun _ => ⟨Role.Obeys.present, fun present => ⟨present, ?_⟩⟩
  simp [plain]

theorem each_accepted_iff {α : Type} {read : Node → Except Stop α} {tag : ExpandedName}
    {role : Role} (reads : ∀ child, Accepted (read child) ↔ role.Sound child) :
    Accepted (each node tag read) ↔ ∀ inner ∈ Role.each node tag role, inner.1.Sound inner.2 := by
  rw [Role.forall_each_iff, each, accepted_mapM_iff]
  exact forall₂_congr fun child _ => reads child

theorem array_size_accepted_iff :
    Accepted (arraySize path node) ↔ Role.array.Obeys node := by
  unfold arraySize
  constructor
  · intro accepted
    refine ⟨by simp [Role.needs], ?_⟩
    rintro _ ⟨rfl⟩ value given
    rw [given] at accepted
    dsimp only at accepted
    cases size : Text.integer? value.toList with
    | some number => rfl
    | none => simp [size] at accepted
  · intro obeys
    cases given : attribute? node "fixed-size" with
    | none => simp
    | some value =>
        obtain ⟨size, number⟩ :=
          Option.isSome_iff_exists.mp (obeys.numeric "fixed-size" rfl value given)
        simp [number]

theorem type_among_accepted_iff :
    Accepted (typeAmong path nodes) ↔ ∀ inner ∈ Role.arrayAmong nodes, inner.1.Sound inner.2 := by
  fun_induction typeAmong path nodes with
  | case1 => simp [Role.arrayAmong]
  | case2 content rest ih =>
      rw [ih, Role.array_among_cons]
      simp [Node.tag?]
  | case3 attributes children rest =>
      rw [Role.array_among_cons]
      simp [Node.tag?]
  | case4 attributes children rest node _ named =>
      obtain ⟨name, given⟩ := Option.isSome_iff_exists.mp named
      have there : filled? (attribute? (.element (core "array") attributes children) "name") =
          some name := given
      rw [Role.array_among_cons]
      simp [Node.tag?, there]
  | case5 attributes children rest node other unnamed ih =>
      have absent : filled? (attribute? (.element (core "array") attributes children) "name") =
          none := Option.not_isSome_iff_eq_none.mp unnamed
      have same : Role.array.Obeys node ↔
          Role.array.Obeys (.element (core "array") attributes children) :=
        Role.obeys_element_iff [] children
      rw [Role.array_among_cons, accepted_bind_iff fun _ _ => accepted_then_pure_iff,
        array_size_accepted_iff, ih, same]
      simp [Node.tag?, absent, other, @Role.sound_iff .array, Role.within, Node.children]
  | case6 tag attributes children rest type array ih =>
      rw [ih, Role.array_among_cons]
      simp [Node.tag?, type, array]

theorem type_of_accepted_iff :
    Accepted (typeOf path node) ↔
      ∀ inner ∈ Role.arrayAmong node.children, inner.1.Sound inner.2 :=
  type_among_accepted_iff

theorem parameter_accepted_iff :
    Accepted (parameter path node) ↔
      (node.tag? = some (core "instance-parameter") → Role.instanceParameter.Sound node) ∧
        (node.tag? = some (core "parameter") → Role.parameter.Sound node) := by
  unfold parameter
  by_cases instance_ : node.tag? = some (core "instance-parameter")
  · rw [if_pos instance_, accepted_bind_iff fun _ _ => accepted_then_pure_iff,
      required_accepted_iff, type_of_accepted_iff, sound_of_needs .instanceParameter rfl]
    simp [instance_, Role.needs, Role.within]
  rw [if_neg instance_]
  by_cases plain : node.tag? = some (core "parameter")
  · rw [if_pos plain, sound_of_needs .parameter rfl]
    by_cases variadic : (node.childTagged? (core "varargs")).isSome
    · rw [if_pos variadic, accepted_bind_iff fun _ _ => accepted_then_pure_iff,
        required_accepted_iff]
      simp [plain, Role.needs, Role.within, variadic]
    · rw [if_neg variadic, accepted_bind_iff fun _ _ => accepted_then_pure_iff, accepted_map_iff,
        required_accepted_iff, type_of_accepted_iff]
      simp [plain, Role.needs, Role.within, variadic, and_comm]
  · simp [instance_, plain]

theorem parameters_accepted_iff :
    Accepted (parameters path node) ↔ ∀ inner ∈ Role.parameterList node, inner.1.Sound inner.2 := by
  unfold parameters Role.parameterList
  cases node.childTagged? (core "parameters") with
  | none => simp
  | some list =>
      rw [accepted_then_pure_iff, accepted_mapM_iff, List.forall_mem_append, Role.forall_each_iff,
        Role.forall_each_iff]
      simp only [parameter_accepted_iff, Node.childrenTagged, List.mem_filter, decide_eq_true_eq,
        and_imp, forall_and]

theorem return_value_accepted_iff :
    Accepted (returnValue path node) ↔ ∀ inner ∈ Role.returned node, inner.1.Sound inner.2 := by
  unfold returnValue Role.returned
  cases node.childTagged? (core "return-value") with
  | none => simp
  | some child =>
      rw [accepted_then_pure_iff, type_of_accepted_iff]
      simp [sound_of_needs .result rfl, Role.needs, Role.within]

theorem callback_accepted_iff : Accepted (callback path node) ↔ Role.callback.Sound node := by
  unfold callback
  rw [accepted_bind_iff fun _ _ => accepted_then_pure_iff, parameters_accepted_iff,
    return_value_accepted_iff, sound_of_needs .callback rfl]
  simp [Role.needs, Role.within, Role.signature, or_imp, forall_and]

theorem callable_accepted_iff : Accepted (callable path node) ↔ Role.callable.Sound node := by
  unfold callable
  rw [accepted_bind_iff fun _ _ => accepted_bind_iff fun _ _ => accepted_then_pure_iff,
    required_accepted_iff, parameters_accepted_iff, return_value_accepted_iff,
    sound_of_needs .callable rfl]
  simp [Role.needs, Role.within, Role.signature, or_imp, forall_and]

theorem signal_accepted_iff : Accepted (signal path node) ↔ Role.callable.Sound node := by
  unfold signal
  rw [accepted_bind_iff fun _ _ => accepted_bind_iff fun _ _ => accepted_then_pure_iff,
    required_accepted_iff, parameters_accepted_iff, return_value_accepted_iff,
    sound_of_needs .callable rfl]
  simp [Role.needs, Role.within, Role.signature, or_imp, forall_and]

theorem constant_accepted_iff : Accepted (constant path node) ↔ Role.constant.Sound node := by
  unfold constant
  rw [accepted_bind_iff fun _ _ => accepted_bind_iff fun _ _ => accepted_then_pure_iff,
    required_accepted_iff, required_accepted_iff, type_of_accepted_iff,
    sound_of_needs .constant rfl]
  simp [Role.needs, Role.within, and_assoc, and_comm]

theorem field_accepted_iff : Accepted (field path node) ↔ Role.field.Sound node := by
  unfold field
  rw [sound_of_needs .field rfl]
  cases found : node.childTagged? (core "callback") with
  | some child =>
      dsimp only
      rw [accepted_bind_iff fun _ _ => accepted_then_pure_iff, accepted_map_iff,
        required_accepted_iff, callback_accepted_iff]
      simp [Role.needs, Role.within, found, and_comm]
  | none =>
      dsimp only
      rw [accepted_bind_iff fun _ _ => accepted_then_pure_iff, accepted_map_iff,
        required_accepted_iff, type_of_accepted_iff]
      simp [Role.needs, Role.within, found, and_comm]

theorem member_accepted_iff : Accepted (member path node) ↔ Role.member.Sound node := by
  have leaf : Role.member.Sound node ↔ Role.member.Obeys node := by
    rw [Role.sound_iff]
    simp [Role.within]
  rw [leaf]
  unfold member
  cases given : attribute? node "value" with
  | none =>
      have refused : ¬Role.member.Obeys node := by
        intro obeys
        simpa [given] using obeys.present "value" (by simp [Role.needs])
      simp [required, given, bind, Except.bind, refused]
  | some value =>
      have obeys_iff : Role.member.Obeys node ↔
          (attribute? node "name").isSome ∧ (Text.integer? value.toList).isSome := by
        constructor
        · intro obeys
          exact ⟨obeys.present "name" (by simp [Role.needs]), obeys.numeric "value" rfl value given⟩
        · rintro ⟨named, number⟩
          refine ⟨by simp [Role.needs, given, named], ?_⟩
          rintro _ ⟨rfl⟩ value' given'
          rw [given] at given'
          cases given'
          exact number
      rw [required_eq_ok_iff.mpr given, obeys_iff]
      cases number : Text.integer? value.toList with
      | none => simp [number, bind, Except.bind]
      | some size =>
          simpa [number, bind, Except.bind] using
            accepted_then_pure_iff.trans (@required_accepted_iff path node "name")

theorem alias_accepted_iff : Accepted (aliasEntry path node) ↔ Role.synonym.Sound node := by
  unfold aliasEntry
  rw [accepted_then_pure_iff, required_accepted_iff, sound_of_needs .synonym rfl]
  simp [Role.needs, Role.within]

theorem class_accepted_iff : Accepted (classEntry path node) ↔ Role.classType.Sound node := by
  unfold classEntry
  rw [accepted_bind_iff fun _ _ => accepted_bind_iff fun _ _ => accepted_bind_iff fun _ _ =>
      accepted_bind_iff fun _ _ => accepted_bind_iff fun _ _ => accepted_bind_iff fun _ _ =>
        accepted_then_pure_iff, sound_of_needs .classType rfl]
  simp only [required_accepted_iff, each_accepted_iff fun _ => field_accepted_iff,
    each_accepted_iff fun _ => callable_accepted_iff, each_accepted_iff fun _ => signal_accepted_iff,
    each_accepted_iff fun _ => constant_accepted_iff, Role.needs, Role.within, Role.callables,
    List.forall_mem_append, List.forall_mem_singleton, and_assoc]

theorem interface_accepted_iff :
    Accepted (interfaceEntry path node) ↔ Role.interface.Sound node := by
  unfold interfaceEntry
  rw [accepted_bind_iff fun _ _ => accepted_bind_iff fun _ _ => accepted_bind_iff fun _ _ =>
      accepted_bind_iff fun _ _ => accepted_bind_iff fun _ _ => accepted_then_pure_iff,
    sound_of_needs .interface rfl]
  simp only [required_accepted_iff, each_accepted_iff fun _ => callable_accepted_iff,
    each_accepted_iff fun _ => signal_accepted_iff, each_accepted_iff fun _ => constant_accepted_iff,
    Role.needs, Role.within, Role.callables, List.forall_mem_append, List.forall_mem_singleton,
    and_assoc]

theorem compound_accepted_iff : Accepted (compoundEntry path node) ↔ Role.compound.Sound node := by
  unfold compoundEntry
  rw [accepted_bind_iff fun _ _ => accepted_bind_iff fun _ _ => accepted_bind_iff fun _ _ =>
      accepted_bind_iff fun _ _ => accepted_then_pure_iff, sound_of_needs .compound rfl]
  simp only [required_accepted_iff, each_accepted_iff fun _ => field_accepted_iff,
    each_accepted_iff fun _ => callable_accepted_iff, Role.needs, Role.within, Role.callables,
    List.forall_mem_append, List.forall_mem_singleton, and_assoc]

theorem enumeration_accepted_iff :
    Accepted (enumerationEntry path node) ↔ Role.enumeration.Sound node := by
  unfold enumerationEntry
  rw [accepted_bind_iff fun _ _ => accepted_bind_iff fun _ _ => accepted_then_pure_iff,
    sound_of_needs .enumeration rfl]
  simp only [required_accepted_iff, each_accepted_iff fun _ => member_accepted_iff,
    each_accepted_iff fun _ => callable_accepted_iff, Role.needs, Role.within,
    List.forall_mem_append, List.forall_mem_singleton]
  exact and_assoc.symm.trans and_comm

theorem entry_accepted_iff :
    Accepted (entry path node) ↔
      (node.tag? = some (core "alias") → Role.synonym.Sound node) ∧
      (node.tag? = some (core "class") → Role.classType.Sound node) ∧
      (node.tag? = some (core "interface") → Role.interface.Sound node) ∧
      (node.tag? = some (core "record") → Role.compound.Sound node) ∧
      (node.tag? = some (core "union") → Role.compound.Sound node) ∧
      (node.tag? = some (core "enumeration") → Role.enumeration.Sound node) ∧
      (node.tag? = some (core "bitfield") → Role.enumeration.Sound node) ∧
      (node.tag? = some (core "function") → Role.callable.Sound node) ∧
      (node.tag? = some (core "callback") → Role.callback.Sound node) ∧
      (node.tag? = some (core "constant") → Role.constant.Sound node) := by
  unfold entry
  by_cases alias_ : node.tag? = some (core "alias")
  · simp [alias_, alias_accepted_iff]
  by_cases class_ : node.tag? = some (core "class")
  · simp [class_, class_accepted_iff]
  by_cases interface : node.tag? = some (core "interface")
  · simp [interface, interface_accepted_iff]
  by_cases record : node.tag? = some (core "record")
  · simp [record, compound_accepted_iff]
  by_cases union : node.tag? = some (core "union")
  · simp [union, compound_accepted_iff]
  by_cases enumeration : node.tag? = some (core "enumeration")
  · simp [enumeration, enumeration_accepted_iff]
  by_cases flags : node.tag? = some (core "bitfield")
  · simp [flags, enumeration_accepted_iff]
  by_cases function : node.tag? = some (core "function")
  · simp [function, callable_accepted_iff]
  by_cases callback_ : node.tag? = some (core "callback")
  · simp [callback_, callback_accepted_iff]
  by_cases constant_ : node.tag? = some (core "constant")
  · simp [constant_, constant_accepted_iff]
  · simp [*]

theorem namespace_accepted_iff : Accepted (namespaceEntry path node) ↔ Role.space.Sound node := by
  unfold namespaceEntry
  rw [accepted_bind_iff fun _ _ => accepted_then_pure_iff, sound_of_needs .space rfl]
  simp only [required_accepted_iff, accepted_mapM_iff, entry_accepted_iff, Role.needs, Role.within,
    List.forall_mem_append, List.forall_mem_singleton, Role.forall_each_iff, Node.childrenTagged,
    List.mem_filter, decide_eq_true_eq, and_imp, forall_and, and_assoc]

theorem include_accepted_iff : Accepted (includeEntry path node) ↔ Role.included.Sound node := by
  unfold includeEntry
  rw [accepted_bind_iff fun _ _ => accepted_then_pure_iff, sound_of_needs .included rfl]
  simp [required_accepted_iff, Role.needs, Role.within]

/-- A tree is read as a repository exactly if its root is one and all that is looked at is sound. -/
theorem repository_accepted_iff :
    Accepted (repository path node) ↔
      node.tag? = some (core "repository") ∧ Role.document.Sound node := by
  unfold repository
  rw [accepted_ite_iff, accepted_bind_iff fun _ _ => accepted_then_pure_iff,
    each_accepted_iff fun _ => include_accepted_iff,
    each_accepted_iff fun _ => namespace_accepted_iff, sound_of_needs .document rfl]
  simp only [Role.needs, Role.within, List.forall_mem_append]
  by_cases root : node.tag? = some (core "repository") <;> simp [root]

end Reader

/-- A tree is read as a repository or refused with nothing but the path of its document in the
details. It is refused exactly if its root is no repository or an element that is looked at breaks
the rule of its role. So is a document, once it has been read as a tree. -/
theorem trees_refused_by_rules (path : String) (root : Node) :
    ((∃ repository, Reader.repository path root = .ok repository) ∨
      ∃ stop, Reader.repository path root = .error stop ∧ stop.IsRefusal path) ∧
    ((∃ stop, Reader.repository path root = .error stop) ↔
      root.tag? ≠ some (core "repository") ∨
        ∃ role node, Role.Visits (.document, root) (role, node) ∧ ¬role.Obeys node) ∧
    ∀ source : Source, source.read = .tree root →
      Repository.read path source = Reader.repository path root := by
  refine ⟨?_, ?_, fun source tree => by rw [Repository.read, tree]⟩
  · cases result : Reader.repository path root with
    | ok repository => exact .inl ⟨repository, rfl⟩
    | error stop => exact .inr ⟨stop, rfl, Reader.repository_refuses path root stop result⟩
  · have refused : (∃ stop, Reader.repository path root = .error stop) ↔
        ¬Accepted (Reader.repository path root) := by
      cases Reader.repository path root <;> simp
    rw [refused, Reader.repository_accepted_iff, not_and_or]
    simp only [Role.Sound, not_forall, Prod.exists, exists_prop, Ne]

/-- A field whose callback takes an array of a size that is no number. -/
def unsizedField : Node :=
  .element (core "field") [(⟨none, "name"⟩, "f")] [
    .element (core "callback") [] [
      .element (core "parameters") [] [
        .element (core "parameter") [(⟨none, "name"⟩, "p")] [
          .element (core "array") [(⟨none, "fixed-size"⟩, "many")] []]]]]

def unsizedTree : Node :=
  .element (core "repository") [] [
    .element (core "namespace") [(⟨none, "name"⟩, "A")] [
      .element (core "record") [(⟨none, "name"⟩, "R")] [unsizedField]]]

/-- The size is looked at through the namespace, the record, the field, its callback and the
parameter of that one. -/
theorem trees_refused_by_rules_inside :
    ∃ stop, Reader.repository "in/A-1.gir" unsizedTree = .error stop := by
  refine (trees_refused_by_rules "in/A-1.gir" unsizedTree).2.1.mpr (.inr ⟨.array,
    .element (core "array") [(⟨none, "fixed-size"⟩, "many")] [], ?_, ?_⟩)
  · exact .head (List.Mem.head _) (.head (List.Mem.head _) (.head (List.Mem.head _)
      (.head (List.Mem.head _) (.head (List.Mem.head _) (.head (List.Mem.head _) .refl)))))
  · intro obeys
    have number := obeys.numeric "fixed-size" (by decide) "many" (by decide)
    exact absurd number (by decide)

end ZigBindings
