import ZigBindings.Proofs.Repository.Essence

/-!
# Reading an essence

Each reader gives for the essence of an element what it gives for the element. A type is looked for
among all children of an element, so that all of them are followed in order; everything else is
found by its tag or its name.
-/

namespace ZigBindings

open ZigBindings.Markup

/-- A reader for elements with a tag that does not see what is not in their essence. -/
def IsBlind {α : Type} (tag : ExpandedName) (read : Node → Except Stop α) : Prop :=
  ∀ node : Node, node.tag? = some tag → ∀ value,
    read (essence node) = .ok value ↔ read node = .ok value

theorem mapM_eq_ok_congr {α β : Type} {first second : α → Except Stop β} {items : List α}
    {values : List β}
    (same : ∀ item ∈ items, ∀ value, first item = .ok value ↔ second item = .ok value) :
    items.mapM first = .ok values ↔ items.mapM second = .ok values := by
  induction items generalizing values with
  | nil => rw [mapM_nil_eq_ok_iff, mapM_nil_eq_ok_iff]
  | cons item rest ih =>
      obtain ⟨here, others⟩ := List.forall_mem_cons.mp same
      simp only [mapM_cons_eq_ok_iff, here, ih others]

namespace Reader

variable {path : String} {interest : Interest} {tag own : ExpandedName} {node : Node}

theorem plain_essence {name : String} (asks : node.Asks interest)
    (wanted : ⟨none, name⟩ ∈ interest.attributes) :
    attribute? (essence node) name = attribute? node name :=
  attribute_essence asks wanted

theorem each_essence {α : Type} {read : Node → Except Stop α} {values : List α}
    (asks : node.Asks interest) (blind : IsBlind own read) (wanted : own ∈ interest.children) :
    each (essence node) own read = .ok values ↔ each node own read = .ok values := by
  rw [each, each, children_tagged_essence asks wanted, List.mapM_map]
  refine mapM_eq_ok_congr fun child member value => blind child ?_ value
  exact of_decide_eq_true (List.mem_filter.mp member).2

section Types

theorem simple_type_essence (asks : node.Asks interest)
    (named : ⟨none, "name"⟩ ∈ interest.attributes) (spelled : inC "type" ∈ interest.attributes) :
    simpleType (essence node) = simpleType node := by
  rw [simpleType, plain_essence asks named, attribute_essence asks spelled, simpleType]

theorem array_size_essence (asks : node.Asks .arrayType) :
    arraySize path (essence node) = arraySize path node := by
  rw [arraySize, plain_essence asks (by decide), arraySize]

theorem children_essence_of_ordered (asks : node.Asks interest) (ordered : ¬interest.anyOrder) :
    (essence node).children = (node.children.map essence).filter (isAsked interest) := by
  rw [children_essence asks, keptChildren, if_neg ordered]

theorem asked_of_type (types : Interest.types ⊆ interest.children)
    (type : node.tag? = some (core "type") ∨ node.tag? = some (core "array")) :
    isAsked interest node := by
  rw [isAsked, List.any_eq_true]
  rcases type with here | here
  · exact ⟨core "type", types (by simp [Interest.types]), by simp [here]⟩
  · exact ⟨core "array", types (by simp [Interest.types]), by simp [here]⟩

theorem type_among_essences_of_other {rest : List Node} {keep : Node → Bool}
    (type : node.tag? ≠ some (core "type")) (array : node.tag? ≠ some (core "array"))
    (later : typeAmong path ((rest.map essence).filter keep) = typeAmong path rest) :
    typeAmong path (((node :: rest).map essence).filter keep) = typeAmong path (node :: rest) := by
  rw [type_among_cons_of_other type array, List.map_cons, List.filter_cons]
  split
  · rw [type_among_cons_of_other (by simpa using type) (by simpa using array), later]
  · exact later

theorem type_asks (tagged : node.tag? = some (core "type")) : node.Asks .simpleType :=
  asks_of_row tagged (by simp [Interest.table])

theorem array_asks (tagged : node.tag? = some (core "array")) : node.Asks .arrayType :=
  asks_of_row tagged (by simp [Interest.table])

theorem type_among_essences {nodes : List Node} {keep : Node → Bool}
    (keeps : ∀ node : Node, node.tag? = some (core "type") ∨ node.tag? = some (core "array") →
      keep node) :
    typeAmong path ((nodes.map essence).filter keep) = typeAmong path nodes := by
  -- The cases are those of the search: a type or a named array ends it, an array without a name
  -- is searched itself, and anything else is passed over.
  fun_induction typeAmong path nodes generalizing keep with
  | case1 => rw [List.map_nil, List.filter_nil, typeAmong]
  | case2 content rest ih =>
      have plain : (Node.text content).tag? = none := rfl
      rw [type_among_essences_of_other (by simp [plain]) (by simp [plain]) (ih keeps), typeAmong]
  | case3 attributes children rest =>
      have tagged : (Node.element (core "type") attributes children).tag? = some (core "type") :=
        rfl
      rw [List.map_cons, List.filter_cons_of_pos (keeps _ (.inl ((tag_essence _).trans tagged))),
        type_among_cons_of_type ((tag_essence _).trans tagged),
        simple_type_essence (type_asks tagged) (by decide) (by decide)]
      rfl
  | case4 attributes children rest node other =>
      rename_i named
      have tagged : (Node.element (core "array") attributes children).tag? = some (core "array") :=
        rfl
      have given : (filled? (attribute? (essence (.element (core "array") attributes children))
          "name")).isSome := by
        rw [plain_essence (array_asks tagged) (by decide)]
        exact named
      rw [List.map_cons, List.filter_cons_of_pos (keeps _ (.inr ((tag_essence _).trans tagged))),
        type_among_cons_of_array ((tag_essence _).trans tagged), if_pos given,
        simple_type_essence (array_asks tagged) (by decide) (by decide)]
      rfl
  | case5 attributes children rest node other unnamed =>
      rename_i ih
      have tagged : (Node.element (core "array") attributes children).tag? = some (core "array") :=
        rfl
      have given : ¬(filled? (attribute? (essence (.element (core "array") attributes children))
          "name")).isSome := by
        rw [plain_essence (array_asks tagged) (by decide)]
        exact unnamed
      rw [List.map_cons, List.filter_cons_of_pos (keeps _ (.inr ((tag_essence _).trans tagged))),
        type_among_cons_of_array ((tag_essence _).trans tagged), if_neg given,
        array_size_essence (array_asks tagged), typeOf,
        children_essence_of_ordered (array_asks tagged) (by decide), Node.children,
        ih fun _ => asked_of_type (List.Subset.refl _)]
      rfl
  | case6 tag attributes children rest type array ih =>
      have tagged : (Node.element tag attributes children).tag? = some tag := rfl
      rw [type_among_essences_of_other (by simpa [tagged] using type)
        (by simpa [tagged] using array) (ih keeps), typeAmong, if_neg type, if_neg array]

theorem type_of_essence (asks : node.Asks interest) (ordered : ¬interest.anyOrder)
    (types : Interest.types ⊆ interest.children) :
    typeOf path (essence node) = typeOf path node := by
  rw [typeOf, children_essence_of_ordered asks ordered,
    type_among_essences fun _ => asked_of_type types, typeOf]

end Types

section Members

theorem alias_blind : IsBlind (core "alias") (aliasEntry path) := by
  intro node tagged value
  have asks : node.Asks .synonym := asks_of_row tagged (by simp [Interest.table])
  have type : simpleTypeOf (essence node) = simpleTypeOf node := by
    rw [simpleTypeOf, child_tagged_essence asks (by simp [Interest.synonym]), simpleTypeOf]
    cases found : node.childTagged? (core "type") with
    | none => rfl
    | some child =>
        exact simple_type_essence (type_asks (tag_of_child_tagged found)) (by decide) (by decide)
  rw [alias_eq_ok_iff, alias_eq_ok_iff, plain_essence asks (by decide), type]

theorem is_parameter_essence (node : Node) : isParameter (essence node) = isParameter node := by
  simp only [isParameter, tag_essence]

theorem parameter_essence (own : isParameter node) (value : Option Parameter) :
    Reader.parameter path (essence node) = .ok value ↔ Reader.parameter path node = .ok value := by
  cases value with
  | none =>
      have own' : isParameter (essence node) := (is_parameter_essence node).trans own
      exact iff_of_false (parameter_ne_none own') (parameter_ne_none own)
  | some value =>
      simp only [isParameter, Bool.or_eq_true, decide_eq_true_eq] at own
      rcases own with tagged | tagged
      · have asks : node.Asks .instanceParameter := asks_of_row tagged (by simp [Interest.table])
        rw [instance_parameter_eq_ok_iff tagged,
          instance_parameter_eq_ok_iff ((tag_essence node).trans tagged),
          plain_essence asks (by decide),
          type_of_essence asks (by decide) (List.Subset.refl _)]
      · have asks : node.Asks .parameter := asks_of_row tagged (by simp [Interest.table])
        rw [parameter_eq_ok_iff tagged, parameter_eq_ok_iff ((tag_essence node).trans tagged),
          plain_essence asks (by decide),
          type_of_essence asks (by decide) (List.subset_cons_self _ _),
          child_tagged_essence asks (by simp [Interest.parameter]), Option.isSome_map]

theorem asked_of_parameter (own : isParameter node) : isAsked .parameterList (essence node) := by
  simpa [isParameter, isAsked, Interest.parameterList] using own

theorem parameters_among_essence (asks : node.Asks .parameterList)
    {values : List (Option Parameter)} :
    ((essence node).children.filter isParameter).mapM (Reader.parameter path) = .ok values ↔
      (node.children.filter isParameter).mapM (Reader.parameter path) = .ok values := by
  have kept : (essence node).children.filter isParameter =
      (node.children.filter isParameter).map essence := by
    rw [children_essence_of_ordered asks (by decide), List.filter_filter, List.filter_map]
    congr 1
    refine List.filter_congr fun child _ => ?_
    rw [Function.comp_apply, is_parameter_essence]
    cases own : isParameter child with
    | false => rfl
    | true => rw [asked_of_parameter own, Bool.and_self]
  rw [kept, List.mapM_map]
  refine mapM_eq_ok_congr fun child member value => ?_
  exact parameter_essence (List.mem_filter.mp member).2 value

section Signature

variable (asks : node.Asks interest)

include asks in
theorem parameters_essence {list : List Parameter}
    (wanted : core "parameters" ∈ interest.children) :
    Reader.parameters path (essence node) = .ok list ↔ Reader.parameters path node = .ok list := by
  rw [parameters_eq_ok_iff, parameters_eq_ok_iff, child_tagged_essence asks wanted]
  cases found : node.childTagged? (core "parameters") with
  | none => rfl
  | some child =>
      exact parameters_among_essence
        (asks_of_row (tag_of_child_tagged found) (by simp [Interest.table]))

include asks in
theorem return_value_essence {returns : ReturnValue}
    (wanted : core "return-value" ∈ interest.children) :
    returnValue path (essence node) = .ok returns ↔ returnValue path node = .ok returns := by
  rw [return_value_eq_ok_iff, return_value_eq_ok_iff, child_tagged_essence asks wanted]
  cases found : node.childTagged? (core "return-value") with
  | none => rfl
  | some child =>
      have own : child.Asks .result :=
        asks_of_row (tag_of_child_tagged found) (by simp [Interest.table])
      simp only [Option.map_some]
      rw [type_of_essence own (by decide) (List.Subset.refl _), plain_essence own (by decide),
        plain_essence own (by decide)]

end Signature

theorem callback_blind : IsBlind (core "callback") (Reader.callback path) := by
  intro node tagged value
  have asks : node.Asks .signature := asks_of_row tagged (by simp [Interest.table])
  rw [callback_eq_ok_iff, callback_eq_ok_iff, plain_essence asks (by decide),
    parameters_essence asks (by simp [Interest.signature]),
    return_value_essence asks (by simp [Interest.signature])]

theorem signal_blind : IsBlind signalTag (Reader.signal path) := by
  intro node tagged value
  have asks : node.Asks .signature := by rw [Node.Asks, tagged, Option.map_some, asked, if_pos rfl]
  rw [signal_eq_ok_iff, signal_eq_ok_iff, plain_essence asks (by decide),
    parameters_essence asks (by simp [Interest.signature]),
    return_value_essence asks (by simp [Interest.signature])]

theorem callable_blind {base : String} (row : (base, .callable) ∈ Interest.table) :
    IsBlind (core base) (Reader.callable path) := by
  intro node tagged value
  have asks : node.Asks .callable := asks_of_row tagged row
  rw [callable_eq_ok_iff, callable_eq_ok_iff, plain_essence asks (by decide),
    plain_essence asks (by decide), attribute_essence asks (by decide),
    parameters_essence asks (by simp [Interest.callable]),
    return_value_essence asks (by simp [Interest.callable])]

theorem constant_blind : IsBlind (core "constant") (Reader.constant path) := by
  intro node tagged value
  have asks : node.Asks .constant := asks_of_row tagged (by simp [Interest.table])
  rw [constant_eq_ok_iff, constant_eq_ok_iff, plain_essence asks (by decide),
    plain_essence asks (by decide), type_of_essence asks (by decide) (List.Subset.refl _)]

theorem field_blind : IsBlind (core "field") (Reader.field path) := by
  intro node tagged value
  have asks : node.Asks .field := asks_of_row tagged (by simp [Interest.table])
  rw [field_eq_ok_iff, field_eq_ok_iff, plain_essence asks (by decide),
    type_of_essence asks (by decide) (List.subset_cons_self _ _),
    child_tagged_essence asks (by simp [Interest.field])]
  cases found : node.childTagged? (core "callback") with
  | none => rfl
  | some child =>
      have same := @callback_blind path child (tag_of_child_tagged found)
      simp only [Option.map_some, same]

theorem member_blind : IsBlind (core "member") (Reader.member path) := by
  intro node tagged value
  have asks : node.Asks .member := asks_of_row tagged (by simp [Interest.table])
  rw [member_eq_ok_iff, member_eq_ok_iff, plain_essence asks (by decide),
    plain_essence asks (by decide)]

theorem include_blind : IsBlind (core "include") (includeEntry path) := by
  intro node tagged value
  have asks : node.Asks .included := asks_of_row tagged (by simp [Interest.table])
  rw [include_eq_ok_iff, include_eq_ok_iff, plain_essence asks (by decide),
    plain_essence asks (by decide)]

end Members

section Owners

theorem functions_blind : IsBlind (core "function") (Reader.callable path) :=
  callable_blind (by simp [Interest.table])

theorem constructors_blind : IsBlind (core "constructor") (Reader.callable path) :=
  callable_blind (by simp [Interest.table])

theorem methods_blind : IsBlind (core "method") (Reader.callable path) :=
  callable_blind (by simp [Interest.table])

theorem class_blind : IsBlind (core "class") (classEntry path) := by
  intro node tagged value
  have asks : node.Asks .classType := asks_of_row tagged (by simp [Interest.table])
  rw [class_eq_ok_iff, class_eq_ok_iff, plain_essence asks (by decide),
    plain_essence asks (by decide),
    each_essence asks field_blind (by simp [Interest.classType]),
    each_essence asks functions_blind (by simp [Interest.classType, Interest.callables]),
    each_essence asks constructors_blind (by simp [Interest.classType, Interest.callables]),
    each_essence asks methods_blind (by simp [Interest.classType, Interest.callables]),
    each_essence asks signal_blind (by simp [Interest.classType]),
    each_essence asks constant_blind (by simp [Interest.classType])]

theorem interface_blind : IsBlind (core "interface") (interfaceEntry path) := by
  intro node tagged value
  have asks : node.Asks .interfaceType := asks_of_row tagged (by simp [Interest.table])
  rw [interface_eq_ok_iff, interface_eq_ok_iff, plain_essence asks (by decide),
    each_essence asks functions_blind (by simp [Interest.interfaceType, Interest.callables]),
    each_essence asks constructors_blind (by simp [Interest.interfaceType, Interest.callables]),
    each_essence asks methods_blind (by simp [Interest.interfaceType, Interest.callables]),
    each_essence asks signal_blind (by simp [Interest.interfaceType]),
    each_essence asks constant_blind (by simp [Interest.interfaceType])]

theorem compound_blind {base : String} (row : (base, .compound) ∈ Interest.table) :
    IsBlind (core base) (compoundEntry path) := by
  intro node tagged value
  have asks : node.Asks .compound := asks_of_row tagged row
  rw [compound_eq_ok_iff, compound_eq_ok_iff, plain_essence asks (by decide),
    each_essence asks field_blind (by simp [Interest.compound]),
    each_essence asks functions_blind (by simp [Interest.compound, Interest.callables]),
    each_essence asks constructors_blind (by simp [Interest.compound, Interest.callables]),
    each_essence asks methods_blind (by simp [Interest.compound, Interest.callables])]

theorem enumeration_blind {base : String} (row : (base, .enumeration) ∈ Interest.table) :
    IsBlind (core base) (enumerationEntry path) := by
  intro node tagged value
  have asks : node.Asks .enumeration := asks_of_row tagged row
  rw [enumeration_eq_ok_iff, enumeration_eq_ok_iff, plain_essence asks (by decide),
    each_essence asks member_blind (by simp [Interest.enumeration]),
    each_essence asks functions_blind (by simp [Interest.enumeration])]

theorem kind_blind : (kind : Kind) → IsBlind kind.tag (kind.read path)
  | .synonym => alias_blind
  | .classType => class_blind
  | .interface => interface_blind
  | .record => compound_blind (by simp [Interest.table])
  | .union => compound_blind (by simp [Interest.table])
  | .enumeration => enumeration_blind (by simp [Interest.table])
  | .bitField => enumeration_blind (by simp [Interest.table])
  | .function => functions_blind
  | .callback => callback_blind
  | .constant => constant_blind

theorem namespace_blind : IsBlind (core "namespace") (namespaceEntry path) := by
  intro node tagged space
  have asks : node.Asks .space := asks_of_row tagged (by simp [Interest.table])
  have entries (kind : Kind) : kind.tag ∈ Interest.space.children :=
    List.mem_map_of_mem kind.mem_all
  rw [namespace_eq_ok_iff, namespace_eq_ok_iff, plain_essence asks (by decide),
    plain_essence asks (by decide)]
  simp only [each_essence asks (kind_blind _) (entries _)]

/-- A repository is read of the essence of a tree exactly if it is read of the tree. -/
theorem repository_essence (root : Node) (value : Repository) :
    repository path (essence root) = .ok value ↔ repository path root = .ok value := by
  rw [repository_eq_ok_iff, repository_eq_ok_iff, tag_essence]
  refine and_congr_right fun tagged => and_congr_right fun _ => ?_
  have asks : root.Asks .root := asks_of_row tagged (by simp [Interest.table])
  rw [each_essence asks include_blind (by simp [Interest.root]),
    each_essence asks namespace_blind (by simp [Interest.root])]

end Owners

end Reader

end ZigBindings
