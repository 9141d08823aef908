import Mathlib.Data.List.TakeDrop
import Mathlib.Data.List.TakeWhile
import ZigBindings.Proofs.Repository.Expressible
import ZigBindings.Proofs.Repository.Shelves

/-!
# Canonical documents

A tree for every repository: all that it is made of is written out, nothing is left to defaults,
and declarations stand kind by kind. What is read of it is the repository itself, as long as that
can be expressed at all. The proof follows the data, with one lemma for each reader.
-/

namespace ZigBindings

open ZigBindings.Markup ZigBindings.Text

def plainly (name value : String) : ExpandedName × String :=
  (⟨none, name⟩, value)

def TypeName.raw (name : TypeName) : String :=
  match name.space with
  | none => name.base
  | some space => space ++ "." ++ name.base

def SimpleType.attributes (type : SimpleType) : List (ExpandedName × String) :=
  (type.name.map fun name => plainly "name" name.raw).toList ++
    (type.spelling.map fun spelling => (inC "type", spelling)).toList

def TypeRef.tree : TypeRef → Node
  | .simple type => .element (core "type") type.attributes []
  | .array element size =>
    .element (core "array") (size.map fun number => plainly "fixed-size" (decimal number)).toList
      [element.tree]

def ParameterType.tree : ParameterType → Node
  | .value type => type.tree
  | .variadic => .element (core "varargs") [] []

def Parameter.tree (parameter : Parameter) : Node :=
  .element (core (if parameter.isInstance then "instance-parameter" else "parameter"))
    [plainly "name" parameter.name] [parameter.type.tree]

def ReturnValue.tree (returns : ReturnValue) : Node :=
  .element (core "return-value") (if returns.nullable then [plainly "nullable" "1"] else [])
    [returns.type.tree]

def signatureTrees (parameters : List Parameter) (returns : ReturnValue) : List Node :=
  [.element (core "parameters") [] (parameters.map Parameter.tree), returns.tree]

def Callback.tree (callback : Callback) : Node :=
  .element (core "callback") [plainly "name" callback.name]
    (signatureTrees callback.parameters callback.returns)

def FieldType.tree : FieldType → Node
  | .value type => type.tree
  | .callback signature => signature.tree

def Field.tree (field : Field) : Node :=
  .element (core "field") [plainly "name" field.name] [field.type.tree]

def Callable.tree (base : String) (callable : Callable) : Node :=
  .element (core base)
    ([plainly "name" callable.name, (inC "identifier", callable.symbol)] ++
      (callable.movedTo.map (plainly "moved-to")).toList)
    (signatureTrees callable.parameters callable.returns)

def Signal.tree (signal : Signal) : Node :=
  .element signalTag [plainly "name" signal.name] (signatureTrees signal.parameters signal.returns)

def Constant.tree (constant : Constant) : Node :=
  .element (core "constant") [plainly "name" constant.name, plainly "value" constant.value]
    [constant.type.tree]

def Alias.tree (entry : Alias) : Node :=
  .element (core "alias") [plainly "name" entry.name] [(TypeRef.simple entry.type).tree]

def Member.tree (entry : Member) : Node :=
  .element (core "member") [plainly "name" entry.name, plainly "value" (decimal entry.value)] []

def callableShelves (functions constructors methods : List Callable) : Shelves :=
  [(core "function", functions.map (Callable.tree "function")),
    (core "constructor", constructors.map (Callable.tree "constructor")),
    (core "method", methods.map (Callable.tree "method"))]

def Class.shelves (type : Class) : Shelves :=
  [(core "field", type.fields.map Field.tree)] ++
    callableShelves type.functions type.constructors type.methods ++
    [(signalTag, type.signals.map Signal.tree), (core "constant", type.constants.map Constant.tree)]

def Class.tree (type : Class) : Node :=
  .element (core "class")
    (plainly "name" type.name :: (type.parent.map fun name => plainly "parent" name.raw).toList)
    (type.shelves.flatMap Prod.snd)

def Interface.shelves (type : Interface) : Shelves :=
  callableShelves type.functions type.constructors type.methods ++
    [(signalTag, type.signals.map Signal.tree), (core "constant", type.constants.map Constant.tree)]

def Interface.tree (type : Interface) : Node :=
  .element (core "interface") [plainly "name" type.name] (type.shelves.flatMap Prod.snd)

def Compound.shelves (type : Compound) : Shelves :=
  [(core "field", type.fields.map Field.tree)] ++
    callableShelves type.functions type.constructors type.methods

def Compound.tree (base : String) (type : Compound) : Node :=
  .element (core base) [plainly "name" type.name] (type.shelves.flatMap Prod.snd)

def Enumeration.shelves (type : Enumeration) : Shelves :=
  [(core "member", type.members.map Member.tree),
    (core "function", type.functions.map (Callable.tree "function"))]

def Enumeration.tree (base : String) (type : Enumeration) : Node :=
  .element (core base) [plainly "name" type.name] (type.shelves.flatMap Prod.snd)

def Kind.tree : (kind : Kind) → kind.Value → Node
  | .synonym => Alias.tree
  | .classType => Class.tree
  | .interface => Interface.tree
  | .record => Compound.tree "record"
  | .union => Compound.tree "union"
  | .enumeration => Enumeration.tree "enumeration"
  | .bitField => Enumeration.tree "bitfield"
  | .function => Callable.tree "function"
  | .callback => Callback.tree
  | .constant => Constant.tree

def Namespace.shelves (space : Namespace) : Shelves :=
  Kind.all.map fun kind => (kind.tag, (kind.entries space).map kind.tree)

def Namespace.tree (space : Namespace) : Node :=
  .element (core "namespace") [plainly "name" space.name, plainly "version" space.version]
    (space.shelves.flatMap Prod.snd)

def Include.tree (entry : Include) : Node :=
  .element (core "include") [plainly "name" entry.name, plainly "version" entry.version] []

def Repository.shelves (repository : Repository) : Shelves :=
  [(core "include", repository.includes.map Include.tree),
    (core "namespace", repository.namespaces.map Namespace.tree)]

def Repository.tree (repository : Repository) : Node :=
  .element (core "repository") [] (repository.shelves.flatMap Prod.snd)

section Shelves

variable {shelves : Shelves} {tag : ExpandedName}

theorem mapM_read_back {α β : Type} {read : Node → Except Stop β} {tree : α → Node} {result : α → β}
    {values : List α} (back : ∀ value ∈ values, read (tree value) = .ok (result value)) :
    (values.map tree).mapM read = .ok (values.map result) := by
  induction values with
  | nil => rfl
  | cons value rest ih =>
      obtain ⟨here, others⟩ := List.forall_mem_cons.mp back
      exact mapM_cons_eq_ok_iff.mpr ⟨result value, rest.map result, here, ih others, rfl⟩

theorem each_read_back {α : Type} {read : Node → Except Stop α} {values : List α}
    {own : ExpandedName} {attributes : List (ExpandedName × String)} (proper : shelves.IsProper)
    (tree : α → Node) (shelf : (tag, values.map tree) ∈ shelves)
    (back : ∀ value ∈ values, read (tree value) = .ok value) :
    Reader.each (.element own attributes (shelves.flatMap Prod.snd)) tag read = .ok values := by
  rw [Reader.each, Node.childrenTagged, Node.children, filter_shelves proper shelf]
  exact (mapM_read_back back).trans (by rw [List.map_id'])

end Shelves

section Types

theorem of_string_raw {name : TypeName} (expressible : name.IsExpressible) :
    TypeName.ofString name.raw = name := by
  obtain ⟨space, base⟩ := name
  unfold TypeName.ofString
  rw [List.span_eq_takeWhile_dropWhile]
  cases space with
  | none =>
      have undotted : ∀ c ∈ base.toList, (c != '.') = true := by
        intro c member
        rw [bne_iff_ne]
        rintro rfl
        exact expressible.2 member
      have behind : base.toList.dropWhile (· != '.') = [] := List.dropWhile_eq_nil_iff.mpr undotted
      simp only [TypeName.raw, behind]
  | some space =>
      have undotted : ∀ c ∈ space.toList, (c != '.') = true := by
        intro c member
        rw [bne_iff_ne]
        rintro rfl
        exact expressible member
      have spelled : (space ++ "." ++ base).toList = space.toList ++ '.' :: base.toList := by simp
      have before : (space.toList ++ '.' :: base.toList).takeWhile (· != '.') = space.toList := by
        rw [List.takeWhile_append_of_pos undotted]
        simp
      have behind : (space.toList ++ '.' :: base.toList).dropWhile (· != '.') =
          '.' :: base.toList := by
        rw [List.dropWhile_append_of_pos undotted]
        simp
      simp only [TypeName.raw, spelled, before, behind, String.ofList_toList]

theorem raw_ne_empty {name : TypeName} (expressible : name.IsExpressible) : name.raw ≠ "" := by
  obtain ⟨space, base⟩ := name
  cases space with
  | none => exact expressible.1
  | some space =>
      intro empty
      have spelled := congrArg String.toList empty
      simp [TypeName.raw] at spelled

open Reader

theorem filled_of_ne {value : String} (full : value ≠ "") : filled? (some value) = some value := by
  simp [filled?, Option.filter_some, full]

theorem name_read_back {name : Option TypeName} (expressible : ∀ own ∈ name, own.IsExpressible) :
    (filled? (name.map TypeName.raw)).map TypeName.ofString = name := by
  cases name with
  | none => rfl
  | some name =>
      have own := expressible name rfl
      rw [Option.map_some, filled_of_ne (raw_ne_empty own), Option.map_some, of_string_raw own]

theorem simple_type_read_back {type : SimpleType} (expressible : type.IsExpressible)
    (tag : ExpandedName) (children : List Node) :
    simpleType (.element tag type.attributes children) = type := by
  have name : attribute? (.element tag type.attributes children) "name" =
      type.name.map TypeName.raw := by
    obtain ⟨_ | name, _ | spelling⟩ := type <;> rfl
  have spelling : Node.attribute? (.element tag type.attributes children) (inC "type") =
      type.spelling := by
    obtain ⟨_ | name, _ | spelling⟩ := type <;> rfl
  rw [simpleType, name, spelling, name_read_back expressible]

variable {path : String}

theorem type_read_back {type : TypeRef} (expressible : type.IsExpressible) :
    typeAmong path [type.tree] = .ok type := by
  induction type with
  | simple type =>
      rw [TypeRef.tree, typeAmong, if_pos rfl, simple_type_read_back expressible]
  | array element size ih =>
      obtain ⟨inner, short⟩ := expressible
      have unnamed : filled? (attribute? (.element (core "array")
          (size.map fun number => plainly "fixed-size" (decimal number)).toList []) "name") =
          none := by
        cases size <;> rfl
      have sized : arraySize path (.element (core "array")
          (size.map fun number => plainly "fixed-size" (decimal number)).toList []) = .ok size := by
        refine array_size_eq_ok_iff.mpr ?_
        cases size with
        | none => rfl
        | some number =>
            show some (integer? (decimal number).toList) = some (some number)
            rw [integer_of_decimal (short number rfl)]
      rw [TypeRef.tree, typeAmong, if_neg (by simp), if_pos rfl]
      simp only [unnamed, sized, ih inner]
      rfl

end Types

section Members

open Reader

variable {path : String}

theorem type_tree_tag (type : TypeRef) :
    type.tree.tag? = some (core "type") ∨ type.tree.tag? = some (core "array") := by
  cases type with
  | simple type => exact .inl rfl
  | array element size => exact .inr rfl

theorem type_tree_other (type : TypeRef) {base : String} (plain : base ≠ "type")
    (array : base ≠ "array") {own : ExpandedName} {attributes : List (ExpandedName × String)} :
    (Node.element own attributes [type.tree]).childTagged? (core base) = none := by
  unfold Node.childTagged?
  rw [Node.children, List.find?_singleton]
  rcases type_tree_tag type with tagged | tagged <;> simp [tagged, Ne.symm plain, Ne.symm array]

theorem parameter_read_back {parameter : Parameter} (expressible : parameter.IsExpressible) :
    Reader.parameter path parameter.tree = .ok (some parameter) := by
  obtain ⟨name, type, isInstance⟩ := parameter
  cases isInstance with
  | true =>
      refine (instance_parameter_eq_ok_iff rfl).mpr ⟨rfl, rfl, ?_⟩
      cases type with
      | value type => exact ⟨type, type_read_back expressible, rfl⟩
      | variadic => cases expressible
  | false =>
      refine (parameter_eq_ok_iff rfl).mpr ⟨rfl, rfl, ?_⟩
      cases type with
      | value type =>
          have bounded : (Parameter.tree ⟨name, .value type, false⟩).childTagged? (core "varargs") =
              none := type_tree_other type (by decide) (by decide)
          rw [bounded]
          exact ⟨type, type_read_back expressible, rfl⟩
      | variadic => rfl

section Signature

variable {own : ExpandedName} {attributes : List (ExpandedName × String)}
  {list : List Parameter} {returns : ReturnValue}

theorem parameters_read_back (expressible : ∀ parameter ∈ list, parameter.IsExpressible) :
    Reader.parameters path (.element own attributes (signatureTrees list returns)) = .ok list := by
  have found : (Node.element own attributes (signatureTrees list returns)).childTagged?
      (core "parameters") = some (.element (core "parameters") [] (list.map Parameter.tree)) := rfl
  have all : (list.map Parameter.tree).filter isParameter = list.map Parameter.tree := by
    refine List.filter_eq_self.mpr (List.forall_mem_map.mpr fun parameter _ => ?_)
    obtain ⟨name, type, _ | _⟩ := parameter <;> rfl
  rw [parameters_eq_ok_iff, found]
  show ((list.map Parameter.tree).filter isParameter).mapM _ = _
  rw [all]
  exact mapM_read_back fun parameter member => parameter_read_back (expressible parameter member)

theorem return_value_read_back (expressible : returns.type.IsExpressible) :
    returnValue path (.element own attributes (signatureTrees list returns)) = .ok returns := by
  have found : (Node.element own attributes (signatureTrees list returns)).childTagged?
      (core "return-value") = some returns.tree := by
    simp [Node.childTagged?, Node.children, signatureTrees, Node.tag?, ReturnValue.tree]
  rw [return_value_eq_ok_iff, found]
  refine ⟨type_read_back expressible, ?_⟩
  obtain ⟨type, _ | _⟩ := returns <;> rfl

end Signature

theorem callback_read_back {callback : Callback} (expressible : callback.IsExpressible) :
    Reader.callback path callback.tree = .ok callback :=
  callback_eq_ok_iff.mpr ⟨rfl, parameters_read_back expressible.1,
    return_value_read_back expressible.2⟩

theorem callable_read_back {callable : Callable} (expressible : callable.IsExpressible)
    (base : String) : Reader.callable path (callable.tree base) = .ok callable := by
  have symbol : (callable.tree base).attribute? (inC "identifier") = some callable.symbol := rfl
  have moved : attribute? (callable.tree base) "moved-to" = callable.movedTo := by
    obtain ⟨_, _, _, _, _ | _⟩ := callable <;> rfl
  refine callable_eq_ok_iff.mpr ⟨rfl, ?_, parameters_read_back expressible.parameters,
    return_value_read_back expressible.returns, moved.symm⟩
  rw [symbol]
  by_cases empty : callable.symbol = ""
  · rw [empty]
    exact (expressible.symbol empty).symm
  · rw [filled_of_ne empty]
    rfl

theorem signal_read_back {signal : Signal} (expressible : signal.IsExpressible) :
    Reader.signal path signal.tree = .ok signal :=
  signal_eq_ok_iff.mpr ⟨rfl, parameters_read_back expressible.1,
    return_value_read_back expressible.2⟩

theorem constant_read_back {constant : Constant} (expressible : constant.IsExpressible) :
    Reader.constant path constant.tree = .ok constant :=
  constant_eq_ok_iff.mpr ⟨rfl, type_read_back expressible, rfl⟩

theorem field_read_back {field : Field} (expressible : field.IsExpressible) :
    Reader.field path field.tree = .ok field := by
  obtain ⟨name, type⟩ := field
  refine field_eq_ok_iff.mpr ⟨rfl, ?_⟩
  cases type with
  | value type =>
      have plain : (Field.tree ⟨name, .value type⟩).childTagged? (core "callback") = none :=
        type_tree_other type (by decide) (by decide)
      rw [plain]
      exact ⟨type, type_read_back expressible, rfl⟩
  | callback signature =>
      exact ⟨signature, callback_read_back expressible, rfl⟩

theorem member_read_back {entry : Member} (expressible : entry.IsExpressible) :
    Reader.member path entry.tree = .ok entry :=
  member_eq_ok_iff.mpr ⟨rfl, _, rfl, integer_of_decimal expressible⟩

theorem alias_read_back {entry : Alias} (expressible : entry.IsExpressible) :
    aliasEntry path entry.tree = .ok entry :=
  alias_eq_ok_iff.mpr ⟨rfl, simple_type_read_back expressible _ _⟩

theorem include_read_back (entry : Include) : includeEntry path entry.tree = .ok entry :=
  include_eq_ok_iff.mpr ⟨rfl, rfl⟩

end Members

section Owners

open Reader

variable {path : String}

theorem class_shelves_proper (type : Class) : type.shelves.IsProper := by
  constructor
  · have tags : type.shelves.map Prod.fst = [core "field", core "function", core "constructor",
        core "method", signalTag, core "constant"] := rfl
    rw [tags]
    decide
  · simp [Class.shelves, callableShelves, Field.tree, Callable.tree, Signal.tree, Constant.tree,
      Node.tag?]

theorem class_read_back {type : Class} (expressible : type.IsExpressible) :
    classEntry path type.tree = .ok type := by
  have proper := class_shelves_proper type
  have parent : attribute? type.tree "parent" = type.parent.map TypeName.raw := by
    obtain ⟨_, _ | _⟩ := type <;> rfl
  refine class_eq_ok_iff.mpr ⟨rfl, by rw [parent, name_read_back expressible.parent], ?_⟩
  exact ⟨
    each_read_back proper Field.tree (by simp [Class.shelves]) fun field member =>
      field_read_back (expressible.fields field member),
    each_read_back proper (Callable.tree "function") (by simp [Class.shelves, callableShelves])
      fun callable member => callable_read_back (expressible.functions callable member) _,
    each_read_back proper (Callable.tree "constructor") (by simp [Class.shelves, callableShelves])
      fun callable member => callable_read_back (expressible.constructors callable member) _,
    each_read_back proper (Callable.tree "method") (by simp [Class.shelves, callableShelves])
      fun callable member => callable_read_back (expressible.methods callable member) _,
    each_read_back proper Signal.tree (by simp [Class.shelves]) fun signal member =>
      signal_read_back (expressible.signals signal member),
    each_read_back proper Constant.tree (by simp [Class.shelves]) fun constant member =>
      constant_read_back (expressible.constants constant member)⟩

theorem interface_shelves_proper (type : Interface) : type.shelves.IsProper := by
  constructor
  · have tags : type.shelves.map Prod.fst = [core "function", core "constructor", core "method",
        signalTag, core "constant"] := rfl
    rw [tags]
    decide
  · simp [Interface.shelves, callableShelves, Callable.tree, Signal.tree, Constant.tree, Node.tag?]

theorem interface_read_back {type : Interface} (expressible : type.IsExpressible) :
    interfaceEntry path type.tree = .ok type := by
  have proper := interface_shelves_proper type
  refine interface_eq_ok_iff.mpr ⟨rfl, ?_⟩
  exact ⟨
    each_read_back proper (Callable.tree "function") (by simp [Interface.shelves, callableShelves])
      fun callable member => callable_read_back (expressible.functions callable member) _,
    each_read_back proper (Callable.tree "constructor")
      (by simp [Interface.shelves, callableShelves]) fun callable member =>
        callable_read_back (expressible.constructors callable member) _,
    each_read_back proper (Callable.tree "method") (by simp [Interface.shelves, callableShelves])
      fun callable member => callable_read_back (expressible.methods callable member) _,
    each_read_back proper Signal.tree (by simp [Interface.shelves]) fun signal member =>
      signal_read_back (expressible.signals signal member),
    each_read_back proper Constant.tree (by simp [Interface.shelves]) fun constant member =>
      constant_read_back (expressible.constants constant member)⟩

theorem compound_shelves_proper (type : Compound) : type.shelves.IsProper := by
  constructor
  · have tags : type.shelves.map Prod.fst =
        [core "field", core "function", core "constructor", core "method"] := rfl
    rw [tags]
    decide
  · simp [Compound.shelves, callableShelves, Field.tree, Callable.tree, Node.tag?]

theorem compound_read_back {type : Compound} (expressible : type.IsExpressible) (base : String) :
    compoundEntry path (type.tree base) = .ok type := by
  have proper := compound_shelves_proper type
  refine compound_eq_ok_iff.mpr ⟨rfl, ?_⟩
  exact ⟨
    each_read_back proper Field.tree (by simp [Compound.shelves]) fun field member =>
      field_read_back (expressible.fields field member),
    each_read_back proper (Callable.tree "function") (by simp [Compound.shelves, callableShelves])
      fun callable member => callable_read_back (expressible.functions callable member) _,
    each_read_back proper (Callable.tree "constructor")
      (by simp [Compound.shelves, callableShelves]) fun callable member =>
        callable_read_back (expressible.constructors callable member) _,
    each_read_back proper (Callable.tree "method") (by simp [Compound.shelves, callableShelves])
      fun callable member => callable_read_back (expressible.methods callable member) _⟩

theorem enumeration_shelves_proper (type : Enumeration) : type.shelves.IsProper := by
  constructor
  · have tags : type.shelves.map Prod.fst = [core "member", core "function"] := rfl
    rw [tags]
    decide
  · simp [Enumeration.shelves, Member.tree, Callable.tree, Node.tag?]

theorem enumeration_read_back {type : Enumeration} (expressible : type.IsExpressible)
    (base : String) : enumerationEntry path (type.tree base) = .ok type := by
  have proper := enumeration_shelves_proper type
  refine enumeration_eq_ok_iff.mpr ⟨rfl, ?_⟩
  exact ⟨
    each_read_back proper Member.tree (by simp [Enumeration.shelves]) fun entry member =>
      member_read_back (expressible.members entry member),
    each_read_back proper (Callable.tree "function") (by simp [Enumeration.shelves])
      fun callable member => callable_read_back (expressible.functions callable member) _⟩

theorem Kind.tree_tag (kind : Kind) (value : kind.Value) :
    (kind.tree value).tag? = some kind.tag := by
  cases kind <;> rfl

theorem namespace_shelves_proper (space : Namespace) : space.shelves.IsProper := by
  constructor
  · have tags : space.shelves.map Prod.fst = Kind.all.map Kind.tag := rfl
    rw [tags]
    decide
  · intro shelf member node held
    obtain ⟨kind, _, rfl⟩ := List.mem_map.mp member
    obtain ⟨value, _, rfl⟩ := List.mem_map.mp held
    exact kind.tree_tag value

theorem Kind.read_back {space : Namespace} (expressible : space.IsExpressible) (kind : Kind) :
    ∀ value ∈ kind.entries space, kind.read path (kind.tree value) = .ok value := by
  match kind with
  | .synonym => exact fun entry member => alias_read_back (expressible.aliases entry member)
  | .classType => exact fun type member => class_read_back (expressible.classes type member)
  | .interface => exact fun type member => interface_read_back (expressible.interfaces type member)
  | .record => exact fun type member => compound_read_back (expressible.records type member) _
  | .union => exact fun type member => compound_read_back (expressible.unions type member) _
  | .enumeration =>
      exact fun type member => enumeration_read_back (expressible.enumerations type member) _
  | .bitField =>
      exact fun type member => enumeration_read_back (expressible.bitFields type member) _
  | .function => exact fun entry member => callable_read_back (expressible.functions entry member) _
  | .callback => exact fun entry member => callback_read_back (expressible.callbacks entry member)
  | .constant => exact fun entry member => constant_read_back (expressible.constants entry member)

theorem namespace_read_back {space : Namespace} (expressible : space.IsExpressible) :
    namespaceEntry path space.tree = .ok space :=
  namespace_eq_ok_iff.mpr ⟨rfl, rfl, fun kind =>
    each_read_back (namespace_shelves_proper space) kind.tree
      (List.mem_map.mpr ⟨kind, kind.mem_all, rfl⟩) (kind.read_back expressible)⟩

theorem repository_shelves_proper (repository : Repository) : repository.shelves.IsProper := by
  constructor
  · have tags : repository.shelves.map Prod.fst = [core "include", core "namespace"] := rfl
    rw [tags]
    decide
  · simp [Repository.shelves, Include.tree, Namespace.tree, Node.tag?]

theorem repository_read_back {repository : Repository} (expressible : repository.IsExpressible) :
    Reader.repository repository.path repository.tree = .ok repository := by
  have proper := repository_shelves_proper repository
  refine repository_eq_ok_iff.mpr ⟨rfl, rfl, ?_⟩
  exact ⟨
    each_read_back proper Include.tree (by simp [Repository.shelves]) fun entry _ =>
      include_read_back entry,
    each_read_back proper Namespace.tree (by simp [Repository.shelves]) fun space member =>
      namespace_read_back (expressible space member)⟩

end Owners

/-- What can be expressed is what can be read. -/
theorem expressible_iff_read {repository : Repository} :
    repository.IsExpressible ↔ ∃ root, Reader.repository repository.path root = .ok repository :=
  ⟨fun expressible => ⟨_, repository_read_back expressible⟩,
    fun ⟨_, read⟩ => (repository_expressible read).1⟩

/-- Every repository that can be expressed is read of its canonical tree, and of every document
with that tree. Nothing is lost or put in another place: all that a repository is made of, in
whatever order and number, is in what is read. -/
theorem repositories_read_back (repository : Repository) (expressible : repository.IsExpressible) :
    Reader.repository repository.path repository.tree = .ok repository ∧
      ∀ source : Source, source.read = .tree repository.tree →
        Repository.read repository.path source = .ok repository := by
  have back := repository_read_back expressible
  refine ⟨back, fun source tree => ?_⟩
  rw [Repository.read, tree]
  exact back

/-- Much is empty here, and still nothing of it is absent: the name of the namespace, both parts of
the name of a parent, the name and the symbol of a method. -/
def sparseSpace : Namespace where
  name := ""
  aliases := [⟨"A", {}⟩]
  classes := [{
    name := "C"
    parent := some ⟨some "", ""⟩
    fields := [⟨"f", .callback {
      name := ""
      parameters := [⟨"", .variadic, false⟩]
      returns := { type := .array (.array (.simple {}) (some (-3))) none, nullable := true } }⟩]
    methods := [{
      name := "", symbol := "", movedTo := some ""
      parameters := [⟨"self", .value (.simple ⟨some ⟨none, "C"⟩, none⟩), true⟩] }] }]
  bitFields := [⟨"F", [⟨"", 0⟩, ⟨"m", -1⟩], []⟩]

def sparseRepository : Repository where
  path := "in/A-1.gir"
  includes := [⟨"", ""⟩, ⟨"", ""⟩]
  namespaces := [sparseSpace, sparseSpace]

theorem sparse_class_expressible : ∀ type ∈ sparseSpace.classes, type.IsExpressible := by
  refine List.forall_mem_singleton.mpr ?_
  constructor
  · simp [TypeName.IsExpressible]
  · have size : IsShort (-3) := by decide
    simp [Field.IsExpressible, FieldType.IsExpressible, Callback.IsExpressible,
      Parameter.IsExpressible, TypeRef.IsExpressible, SimpleType.IsExpressible, size]
  · simp
  · simp
  · refine List.forall_mem_singleton.mpr ?_
    constructor <;> simp [Parameter.IsExpressible, TypeRef.IsExpressible,
      SimpleType.IsExpressible, TypeName.IsExpressible, TypeRef.nothing]
  · simp
  · simp

theorem sparse_space_expressible : sparseSpace.IsExpressible := by
  constructor
  · simp [sparseSpace, Alias.IsExpressible, SimpleType.IsExpressible]
  · exact sparse_class_expressible
  · simp [sparseSpace]
  · simp [sparseSpace]
  · simp [sparseSpace]
  · simp [sparseSpace]
  · refine List.forall_mem_singleton.mpr ?_
    constructor
    · have values : IsShort 0 ∧ IsShort (-1) := by decide
      simpa [Member.IsExpressible] using values
    · simp
  · simp [sparseSpace]
  · simp [sparseSpace]
  · simp [sparseSpace]

theorem sparse_repository_read_back :
    sparseRepository.IsExpressible ∧
      Reader.repository "in/A-1.gir" sparseRepository.tree = .ok sparseRepository := by
  have expressible : sparseRepository.IsExpressible := by
    simp [Repository.IsExpressible, sparseRepository, sparse_space_expressible]
  exact ⟨expressible, (repositories_read_back sparseRepository expressible).1⟩

end ZigBindings
