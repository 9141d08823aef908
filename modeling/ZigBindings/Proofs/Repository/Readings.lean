import ZigBindings.Proofs.Repository.Refusal
import ZigBindings.Proofs.Repository.Rules

/-!
# What readings give

When an element is read as a value, and as which one: each reader gives a value exactly if the
attributes it asks for and the readings it is made of give the parts of that value. What is proved
of a reading further on uses these rules and does not look into the readers.
-/

namespace ZigBindings

open ZigBindings.Markup

section Results

variable {ε α β : Type}

theorem bind_eq_ok_iff {result : Except ε α} {next : α → Except ε β} {value : β} :
    result >>= next = .ok value ↔ ∃ first, result = .ok first ∧ next first = .ok value := by
  cases result with
  | error stop => simp [bind, Except.bind]
  | ok first => simp [bind, Except.bind]

theorem map_eq_ok_iff {result : Except ε α} {change : α → β} {value : β} :
    change <$> result = .ok value ↔ ∃ first, result = .ok first ∧ change first = value := by
  cases result <;> simp [Functor.map, Except.map]

theorem pure_eq_ok_iff {first value : α} :
    (pure first : Except ε α) = .ok value ↔ first = value := by
  simp [pure, Except.pure]

theorem mapM_nil_eq_ok_iff {read : α → Except ε β} {values : List β} :
    [].mapM read = .ok values ↔ values = [] := by
  rw [List.mapM_nil, pure_eq_ok_iff, eq_comm]

theorem mapM_cons_eq_ok_iff {read : α → Except ε β} {item : α} {rest : List α} {values : List β} :
    (item :: rest).mapM read = .ok values ↔
      ∃ first others, read item = .ok first ∧ rest.mapM read = .ok others ∧
        values = first :: others := by
  rw [List.mapM_cons]
  simp only [bind_eq_ok_iff, pure_eq_ok_iff]
  constructor
  · rintro ⟨first, here, others, later, rfl⟩
    exact ⟨first, others, here, later, rfl⟩
  · rintro ⟨first, others, here, later, rfl⟩
    exact ⟨first, here, others, later, rfl⟩

end Results

namespace Reader

variable {path : String} {node : Node}

theorem array_size_eq_ok_iff {size : Option Int} :
    arraySize path node = .ok size ↔
      (attribute? node "fixed-size").map (Text.integer? ·.toList) = size.map some := by
  unfold arraySize
  cases attribute? node "fixed-size" with
  | none => cases size <;> simp
  | some value =>
      cases number : Text.integer? value.toList <;> cases size <;> simp [number]

section Types

variable {rest : List Node}

theorem type_among_cons_of_type (tagged : node.tag? = some (core "type")) :
    typeAmong path (node :: rest) = .ok (.simple (simpleType node)) := by
  cases node with
  | text content => cases tagged
  | element tag attributes children =>
      cases tagged
      rw [typeAmong, if_pos rfl]
      rfl

theorem type_among_cons_of_array (tagged : node.tag? = some (core "array")) :
    typeAmong path (node :: rest) =
      if (filled? (attribute? node "name")).isSome then .ok (.simple (simpleType node))
      else do
        let size ← arraySize path node
        return .array (← typeOf path node) size := by
  cases node with
  | text content => cases tagged
  | element tag attributes children =>
      cases tagged
      rw [typeAmong, if_neg (by simp), if_pos rfl]
      rfl

theorem type_among_cons_of_other (type : node.tag? ≠ some (core "type"))
    (array : node.tag? ≠ some (core "array")) :
    typeAmong path (node :: rest) = typeAmong path rest := by
  cases node with
  | text content => rw [typeAmong]
  | element tag attributes children =>
      rw [typeAmong, if_neg fun same => type (congrArg some same),
        if_neg fun same => array (congrArg some same)]

end Types

/-- The two forms of a parameter; what stands between parameters is passed over. -/
def isParameter (node : Node) : Bool :=
  node.tag? = some (core "instance-parameter") || node.tag? = some (core "parameter")

theorem instance_parameter_eq_ok_iff {parameter : Parameter}
    (tagged : node.tag? = some (core "instance-parameter")) :
    Reader.parameter path node = .ok (some parameter) ↔
      attribute? node "name" = some parameter.name ∧ parameter.isInstance = true ∧
        ∃ type, typeOf path node = .ok type ∧ parameter.type = .value type := by
  obtain ⟨name, type, isInstance⟩ := parameter
  unfold Reader.parameter
  rw [if_pos tagged]
  simp only [bind_eq_ok_iff, pure_eq_ok_iff, required_eq_ok_iff]
  constructor
  · rintro ⟨_, named, given, typed, same⟩
    cases same
    exact ⟨named, rfl, given, typed, rfl⟩
  · rintro ⟨named, rfl, given, typed, rfl⟩
    exact ⟨name, named, given, typed, rfl⟩

theorem parameter_eq_ok_iff {parameter : Parameter} (tagged : node.tag? = some (core "parameter")) :
    Reader.parameter path node = .ok (some parameter) ↔
      attribute? node "name" = some parameter.name ∧ parameter.isInstance = false ∧
        if (node.childTagged? (core "varargs")).isSome then parameter.type = .variadic
        else ∃ type, typeOf path node = .ok type ∧ parameter.type = .value type := by
  obtain ⟨name, type, isInstance⟩ := parameter
  have other : node.tag? ≠ some (core "instance-parameter") := by simp [tagged]
  unfold Reader.parameter
  rw [if_neg other, if_pos tagged]
  dsimp only
  by_cases variadic : (node.childTagged? (core "varargs")).isSome
  · simp only [if_pos variadic, bind_eq_ok_iff, pure_eq_ok_iff, required_eq_ok_iff]
    constructor
    · rintro ⟨_, rfl, _, named, same⟩
      cases same
      exact ⟨named, rfl, rfl⟩
    · rintro ⟨named, rfl, rfl⟩
      exact ⟨_, rfl, name, named, rfl⟩
  · simp only [if_neg variadic, bind_eq_ok_iff, map_eq_ok_iff, pure_eq_ok_iff, required_eq_ok_iff]
    constructor
    · rintro ⟨_, ⟨given, typed, rfl⟩, _, named, same⟩
      cases same
      exact ⟨named, rfl, given, typed, rfl⟩
    · rintro ⟨named, rfl, given, typed, rfl⟩
      exact ⟨_, ⟨given, typed, rfl⟩, name, named, rfl⟩

theorem parameter_of_other (other : isParameter node = false) :
    Reader.parameter path node = .ok none := by
  simp only [isParameter, Bool.or_eq_false_iff, decide_eq_false_iff_not] at other
  rw [Reader.parameter, if_neg other.1, if_neg other.2]

theorem parameter_ne_none (own : isParameter node) : Reader.parameter path node ≠ .ok none := by
  simp only [isParameter, Bool.or_eq_true, decide_eq_true_eq] at own
  unfold Reader.parameter
  intro absent
  rcases own with tagged | tagged
  · rw [if_pos tagged] at absent
    simp [bind_eq_ok_iff, map_eq_ok_iff] at absent
  · rw [if_neg (by simp [tagged]), if_pos tagged] at absent
    dsimp only at absent
    split at absent <;> simp [bind_eq_ok_iff, map_eq_ok_iff] at absent

theorem parameters_among_eq_ok_iff {nodes : List Node} {parameters : List Parameter} :
    (∃ found, nodes.mapM (Reader.parameter path) = .ok found ∧ found.filterMap id = parameters) ↔
      (nodes.filter isParameter).mapM (Reader.parameter path) = .ok (parameters.map some) := by
  induction nodes generalizing parameters with
  | nil =>
      rw [List.filter_nil, mapM_nil_eq_ok_iff, List.map_eq_nil_iff]
      constructor
      · rintro ⟨found, read, rfl⟩
        rw [mapM_nil_eq_ok_iff.mp read, List.filterMap_nil]
      · rintro rfl
        exact ⟨[], mapM_nil_eq_ok_iff.mpr rfl, List.filterMap_nil⟩
  | cons node rest ih =>
      simp only [mapM_cons_eq_ok_iff]
      cases own : isParameter node with
      | false =>
          rw [List.filter_cons_of_neg (by simp [own]), ← ih, parameter_of_other own]
          constructor
          · rintro ⟨_, ⟨_, others, ⟨⟩, later, rfl⟩, same⟩
            exact ⟨others, later, same⟩
          · rintro ⟨others, later, same⟩
            exact ⟨_, ⟨none, others, rfl, later, rfl⟩, same⟩
      | true =>
          rw [List.filter_cons_of_pos own, mapM_cons_eq_ok_iff]
          constructor
          · rintro ⟨_, ⟨first, others, here, later, rfl⟩, rfl⟩
            cases first with
            | none => exact absurd here (parameter_ne_none own)
            | some parameter =>
                exact ⟨some parameter, _, here, ih.mp ⟨others, later, rfl⟩, rfl⟩
          · rintro ⟨first, others, here, later, same⟩
            obtain ⟨parameter, more, rfl, rfl, rfl⟩ := List.map_eq_cons_iff.mp same
            obtain ⟨found, read, rfl⟩ := ih.mpr later
            exact ⟨_, ⟨some parameter, found, here, read, rfl⟩, rfl⟩

theorem parameters_eq_ok_iff {parameters : List Parameter} :
    Reader.parameters path node = .ok parameters ↔
      match node.childTagged? (core "parameters") with
      | none => parameters = []
      | some list => (list.children.filter isParameter).mapM (Reader.parameter path) =
          .ok (parameters.map some) := by
  unfold Reader.parameters
  cases node.childTagged? (core "parameters") with
  | none => simp [eq_comm]
  | some list =>
      refine bind_eq_ok_iff.trans (Iff.trans ?_ parameters_among_eq_ok_iff)
      exact exists_congr fun _ => and_congr_right fun _ => pure_eq_ok_iff

theorem return_value_eq_ok_iff {returns : ReturnValue} :
    returnValue path node = .ok returns ↔
      match node.childTagged? (core "return-value") with
      | none => returns = {}
      | some child => typeOf path child = .ok returns.type ∧
          returns.nullable = (attribute? child "nullable" = some "1" ||
            attribute? child "allow-none" = some "1") := by
  obtain ⟨type, nullable⟩ := returns
  unfold returnValue
  cases node.childTagged? (core "return-value") with
  | none => simp [eq_comm]
  | some child =>
      refine bind_eq_ok_iff.trans ?_
      simp only [pure_eq_ok_iff, ReturnValue.mk.injEq]
      constructor
      · rintro ⟨_, typed, rfl, rfl⟩
        exact ⟨typed, rfl⟩
      · rintro ⟨typed, rfl⟩
        exact ⟨type, typed, rfl, rfl⟩

theorem callback_eq_ok_iff {callback : Callback} :
    Reader.callback path node = .ok callback ↔
      callback.name = (attribute? node "name").getD "" ∧
        Reader.parameters path node = .ok callback.parameters ∧
        returnValue path node = .ok callback.returns := by
  obtain ⟨name, parameters, returns⟩ := callback
  unfold Reader.callback
  simp only [bind_eq_ok_iff, pure_eq_ok_iff]
  constructor
  · rintro ⟨_, list, _, result, same⟩
    cases same
    exact ⟨rfl, list, result⟩
  · rintro ⟨rfl, list, result⟩
    exact ⟨parameters, list, returns, result, rfl⟩

theorem callable_eq_ok_iff {callable : Callable} :
    Reader.callable path node = .ok callable ↔
      attribute? node "name" = some callable.name ∧
        callable.symbol = (filled? (node.attribute? (inC "identifier"))).getD callable.name ∧
        Reader.parameters path node = .ok callable.parameters ∧
        returnValue path node = .ok callable.returns ∧
        callable.movedTo = attribute? node "moved-to" := by
  obtain ⟨name, symbol, parameters, returns, movedTo⟩ := callable
  unfold Reader.callable
  simp only [bind_eq_ok_iff, pure_eq_ok_iff, required_eq_ok_iff]
  constructor
  · rintro ⟨_, named, _, list, _, result, same⟩
    cases same
    exact ⟨named, rfl, list, result, rfl⟩
  · rintro ⟨named, rfl, list, result, rfl⟩
    exact ⟨name, named, parameters, list, returns, result, rfl⟩

theorem signal_eq_ok_iff {signal : Signal} :
    Reader.signal path node = .ok signal ↔
      attribute? node "name" = some signal.name ∧
        Reader.parameters path node = .ok signal.parameters ∧
        returnValue path node = .ok signal.returns := by
  obtain ⟨name, parameters, returns⟩ := signal
  unfold Reader.signal
  simp only [bind_eq_ok_iff, pure_eq_ok_iff, required_eq_ok_iff]
  constructor
  · rintro ⟨_, named, _, list, _, result, same⟩
    cases same
    exact ⟨named, list, result⟩
  · rintro ⟨named, list, result⟩
    exact ⟨name, named, parameters, list, returns, result, rfl⟩

theorem constant_eq_ok_iff {constant : Constant} :
    Reader.constant path node = .ok constant ↔
      attribute? node "name" = some constant.name ∧ typeOf path node = .ok constant.type ∧
        attribute? node "value" = some constant.value := by
  obtain ⟨name, type, value⟩ := constant
  unfold Reader.constant
  simp only [bind_eq_ok_iff, pure_eq_ok_iff, required_eq_ok_iff]
  constructor
  · rintro ⟨_, named, _, typed, _, given, same⟩
    cases same
    exact ⟨named, typed, given⟩
  · rintro ⟨named, typed, given⟩
    exact ⟨name, named, type, typed, value, given, rfl⟩

theorem field_eq_ok_iff {field : Field} :
    Reader.field path node = .ok field ↔
      attribute? node "name" = some field.name ∧
        match node.childTagged? (core "callback") with
        | some child => ∃ signature, Reader.callback path child = .ok signature ∧
            field.type = .callback signature
        | none => ∃ type, typeOf path node = .ok type ∧ field.type = .value type := by
  obtain ⟨name, type⟩ := field
  unfold Reader.field
  cases node.childTagged? (core "callback") with
  | some child =>
      simp only [bind_eq_ok_iff, map_eq_ok_iff, pure_eq_ok_iff, required_eq_ok_iff]
      constructor
      · rintro ⟨_, ⟨signature, read, rfl⟩, _, named, same⟩
        cases same
        exact ⟨named, signature, read, rfl⟩
      · rintro ⟨named, signature, read, rfl⟩
        exact ⟨_, ⟨signature, read, rfl⟩, name, named, rfl⟩
  | none =>
      simp only [bind_eq_ok_iff, map_eq_ok_iff, pure_eq_ok_iff, required_eq_ok_iff]
      constructor
      · rintro ⟨_, ⟨given, typed, rfl⟩, _, named, same⟩
        cases same
        exact ⟨named, given, typed, rfl⟩
      · rintro ⟨named, given, typed, rfl⟩
        exact ⟨_, ⟨given, typed, rfl⟩, name, named, rfl⟩

theorem member_eq_ok_iff {member : Member} :
    Reader.member path node = .ok member ↔
      attribute? node "name" = some member.name ∧
        ∃ value, attribute? node "value" = some value ∧
          Text.integer? value.toList = some member.value := by
  obtain ⟨name, number⟩ := member
  unfold Reader.member
  simp only [bind_eq_ok_iff, required_eq_ok_iff]
  constructor
  · rintro ⟨value, given, read⟩
    cases numeral : Text.integer? value.toList with
    | none =>
        rw [numeral] at read
        cases read
    | some found =>
        rw [numeral] at read
        obtain ⟨_, named, same⟩ := bind_eq_ok_iff.mp read
        cases same
        exact ⟨required_eq_ok_iff.mp named, value, given, numeral⟩
  · rintro ⟨named, value, given, numeral⟩
    refine ⟨value, given, ?_⟩
    rw [numeral]
    exact bind_eq_ok_iff.mpr ⟨name, required_eq_ok_iff.mpr named, rfl⟩

theorem alias_eq_ok_iff {entry : Alias} :
    aliasEntry path node = .ok entry ↔
      attribute? node "name" = some entry.name ∧ simpleTypeOf node = entry.type := by
  obtain ⟨name, type⟩ := entry
  unfold aliasEntry
  simp only [bind_eq_ok_iff, pure_eq_ok_iff, required_eq_ok_iff, Alias.mk.injEq]
  constructor
  · rintro ⟨_, named, rfl, typed⟩
    exact ⟨named, typed⟩
  · rintro ⟨named, typed⟩
    exact ⟨name, named, rfl, typed⟩

theorem class_eq_ok_iff {type : Class} :
    classEntry path node = .ok type ↔
      attribute? node "name" = some type.name ∧
        type.parent = (filled? (attribute? node "parent")).map TypeName.ofString ∧
        each node (core "field") (Reader.field path) = .ok type.fields ∧
        each node (core "function") (Reader.callable path) = .ok type.functions ∧
        each node (core "constructor") (Reader.callable path) = .ok type.constructors ∧
        each node (core "method") (Reader.callable path) = .ok type.methods ∧
        each node signalTag (Reader.signal path) = .ok type.signals ∧
        each node (core "constant") (Reader.constant path) = .ok type.constants := by
  obtain ⟨name, parent, fields, functions, constructors, methods, signals, constants⟩ := type
  unfold classEntry
  simp only [bind_eq_ok_iff, pure_eq_ok_iff, required_eq_ok_iff]
  constructor
  · rintro ⟨_, named, _, first, _, second, _, third, _, fourth, _, fifth, _, sixth, same⟩
    cases same
    exact ⟨named, rfl, first, second, third, fourth, fifth, sixth⟩
  · rintro ⟨named, rfl, first, second, third, fourth, fifth, sixth⟩
    exact ⟨name, named, _, first, _, second, _, third, _, fourth, _, fifth, _, sixth, rfl⟩

theorem interface_eq_ok_iff {type : Interface} :
    interfaceEntry path node = .ok type ↔
      attribute? node "name" = some type.name ∧
        each node (core "function") (Reader.callable path) = .ok type.functions ∧
        each node (core "constructor") (Reader.callable path) = .ok type.constructors ∧
        each node (core "method") (Reader.callable path) = .ok type.methods ∧
        each node signalTag (Reader.signal path) = .ok type.signals ∧
        each node (core "constant") (Reader.constant path) = .ok type.constants := by
  obtain ⟨name, functions, constructors, methods, signals, constants⟩ := type
  unfold interfaceEntry
  simp only [bind_eq_ok_iff, pure_eq_ok_iff, required_eq_ok_iff]
  constructor
  · rintro ⟨_, named, _, first, _, second, _, third, _, fourth, _, fifth, same⟩
    cases same
    exact ⟨named, first, second, third, fourth, fifth⟩
  · rintro ⟨named, first, second, third, fourth, fifth⟩
    exact ⟨name, named, _, first, _, second, _, third, _, fourth, _, fifth, rfl⟩

theorem compound_eq_ok_iff {type : Compound} :
    compoundEntry path node = .ok type ↔
      attribute? node "name" = some type.name ∧
        each node (core "field") (Reader.field path) = .ok type.fields ∧
        each node (core "function") (Reader.callable path) = .ok type.functions ∧
        each node (core "constructor") (Reader.callable path) = .ok type.constructors ∧
        each node (core "method") (Reader.callable path) = .ok type.methods := by
  obtain ⟨name, fields, functions, constructors, methods⟩ := type
  unfold compoundEntry
  simp only [bind_eq_ok_iff, pure_eq_ok_iff, required_eq_ok_iff]
  constructor
  · rintro ⟨_, named, _, first, _, second, _, third, _, fourth, same⟩
    cases same
    exact ⟨named, first, second, third, fourth⟩
  · rintro ⟨named, first, second, third, fourth⟩
    exact ⟨name, named, _, first, _, second, _, third, _, fourth, rfl⟩

theorem enumeration_eq_ok_iff {type : Enumeration} :
    enumerationEntry path node = .ok type ↔
      attribute? node "name" = some type.name ∧
        each node (core "member") (Reader.member path) = .ok type.members ∧
        each node (core "function") (Reader.callable path) = .ok type.functions := by
  obtain ⟨name, members, functions⟩ := type
  unfold enumerationEntry
  simp only [bind_eq_ok_iff, pure_eq_ok_iff, required_eq_ok_iff]
  constructor
  · rintro ⟨_, first, _, second, _, named, same⟩
    cases same
    exact ⟨named, first, second⟩
  · rintro ⟨named, first, second⟩
    exact ⟨_, first, _, second, name, named, rfl⟩

theorem include_eq_ok_iff {entry : Include} :
    includeEntry path node = .ok entry ↔
      attribute? node "name" = some entry.name ∧
        attribute? node "version" = some entry.version := by
  obtain ⟨name, version⟩ := entry
  unfold includeEntry
  simp only [bind_eq_ok_iff, pure_eq_ok_iff, required_eq_ok_iff]
  constructor
  · rintro ⟨_, named, _, given, same⟩
    cases same
    exact ⟨named, given⟩
  · rintro ⟨named, given⟩
    exact ⟨name, named, version, given, rfl⟩

theorem repository_eq_ok_iff {value : Repository} :
    repository path node = .ok value ↔
      node.tag? = some (core "repository") ∧ value.path = path ∧
        each node (core "include") (includeEntry path) = .ok value.includes ∧
        each node (core "namespace") (namespaceEntry path) = .ok value.namespaces := by
  obtain ⟨origin, includes, namespaces⟩ := value
  unfold repository
  by_cases root : node.tag? = some (core "repository")
  · rw [if_pos root]
    simp only [bind_eq_ok_iff, pure_eq_ok_iff]
    constructor
    · rintro ⟨_, first, _, second, same⟩
      cases same
      exact ⟨root, rfl, first, second⟩
    · rintro ⟨_, rfl, first, second⟩
      exact ⟨_, first, _, second, rfl⟩
  · simp [root]

end Reader

end ZigBindings
