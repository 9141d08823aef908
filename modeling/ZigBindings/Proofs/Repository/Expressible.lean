import Mathlib.Data.List.TakeDrop
import Mathlib.Data.List.TakeWhile
import ZigBindings.Proofs.Repository.Kinds
import ZigBindings.Proofs.Text.Numeral

/-!
# What documents can express

Not every value is read of some document: names are cut at their first dot and are absent if they
are empty, a missing symbol is replaced by the name, and numbers have a limited length. What is left
is described here, value by value; nothing else is read.
-/

namespace ZigBindings

open ZigBindings.Markup ZigBindings.Text

/-- A name that can be given as one text: the part before the first dot is the namespace, and
without a dot there is no namespace and the text is not empty. -/
def TypeName.IsExpressible (name : TypeName) : Prop :=
  match name.space with
  | none => name.base ≠ "" ∧ '.' ∉ name.base.toList
  | some space => '.' ∉ space.toList

def SimpleType.IsExpressible (type : SimpleType) : Prop :=
  ∀ name ∈ type.name, name.IsExpressible

def TypeRef.IsExpressible : TypeRef → Prop
  | .simple type => type.IsExpressible
  | .array element size => element.IsExpressible ∧ ∀ number ∈ size, IsShort number

/-- A parameter that is no instance parameter with an open end. -/
def Parameter.IsExpressible (parameter : Parameter) : Prop :=
  match parameter.type with
  | .value type => type.IsExpressible
  | .variadic => parameter.isInstance = false

def Callback.IsExpressible (callback : Callback) : Prop :=
  (∀ parameter ∈ callback.parameters, parameter.IsExpressible) ∧ callback.returns.type.IsExpressible

def FieldType.IsExpressible : FieldType → Prop
  | .value type => type.IsExpressible
  | .callback signature => signature.IsExpressible

def Field.IsExpressible (field : Field) : Prop :=
  field.type.IsExpressible

/-- A callable with a symbol, unless it has no name either. -/
structure Callable.IsExpressible (callable : Callable) : Prop where
  symbol : callable.symbol = "" → callable.name = ""
  parameters : ∀ parameter ∈ callable.parameters, parameter.IsExpressible
  returns : callable.returns.type.IsExpressible

def Signal.IsExpressible (signal : Signal) : Prop :=
  (∀ parameter ∈ signal.parameters, parameter.IsExpressible) ∧ signal.returns.type.IsExpressible

def Constant.IsExpressible (constant : Constant) : Prop :=
  constant.type.IsExpressible

def Alias.IsExpressible (entry : Alias) : Prop :=
  entry.type.IsExpressible

def Member.IsExpressible (entry : Member) : Prop :=
  IsShort entry.value

structure Class.IsExpressible (type : Class) : Prop where
  parent : ∀ name ∈ type.parent, name.IsExpressible
  fields : ∀ field ∈ type.fields, field.IsExpressible
  functions : ∀ callable ∈ type.functions, callable.IsExpressible
  constructors : ∀ callable ∈ type.constructors, callable.IsExpressible
  methods : ∀ callable ∈ type.methods, callable.IsExpressible
  signals : ∀ signal ∈ type.signals, signal.IsExpressible
  constants : ∀ constant ∈ type.constants, constant.IsExpressible

structure Interface.IsExpressible (type : Interface) : Prop where
  functions : ∀ callable ∈ type.functions, callable.IsExpressible
  constructors : ∀ callable ∈ type.constructors, callable.IsExpressible
  methods : ∀ callable ∈ type.methods, callable.IsExpressible
  signals : ∀ signal ∈ type.signals, signal.IsExpressible
  constants : ∀ constant ∈ type.constants, constant.IsExpressible

structure Compound.IsExpressible (type : Compound) : Prop where
  fields : ∀ field ∈ type.fields, field.IsExpressible
  functions : ∀ callable ∈ type.functions, callable.IsExpressible
  constructors : ∀ callable ∈ type.constructors, callable.IsExpressible
  methods : ∀ callable ∈ type.methods, callable.IsExpressible

structure Enumeration.IsExpressible (type : Enumeration) : Prop where
  members : ∀ entry ∈ type.members, entry.IsExpressible
  functions : ∀ callable ∈ type.functions, callable.IsExpressible

structure Namespace.IsExpressible (space : Namespace) : Prop where
  aliases : ∀ entry ∈ space.aliases, entry.IsExpressible
  classes : ∀ type ∈ space.classes, type.IsExpressible
  interfaces : ∀ type ∈ space.interfaces, type.IsExpressible
  records : ∀ type ∈ space.records, type.IsExpressible
  unions : ∀ type ∈ space.unions, type.IsExpressible
  enumerations : ∀ type ∈ space.enumerations, type.IsExpressible
  bitFields : ∀ type ∈ space.bitFields, type.IsExpressible
  functions : ∀ callable ∈ space.functions, callable.IsExpressible
  callbacks : ∀ callback ∈ space.callbacks, callback.IsExpressible
  constants : ∀ constant ∈ space.constants, constant.IsExpressible

/-- A repository that can be read of some document. Nothing is asked of its path, of the names and
versions of what it includes, and of the number and the order of anything. -/
def Repository.IsExpressible (repository : Repository) : Prop :=
  ∀ space ∈ repository.namespaces, space.IsExpressible

section Types

theorem of_string_expressible {raw : String} (full : raw ≠ "") :
    (TypeName.ofString raw).IsExpressible := by
  have before : '.' ∉ raw.toList.takeWhile (· != '.') := fun member =>
    absurd (List.mem_takeWhile_imp member) (by simp)
  unfold TypeName.ofString
  rw [List.span_eq_takeWhile_dropWhile]
  cases behind : raw.toList.dropWhile (· != '.') with
  | nil =>
      refine ⟨full, fun member => ?_⟩
      exact absurd (List.dropWhile_eq_nil_iff.mp behind '.' member) (by simp)
  | cons dot after =>
      show '.' ∉ (String.ofList _).toList
      rw [String.toList_ofList]
      exact before

theorem name_expressible (given : Option String) :
    ∀ name ∈ (Reader.filled? given).map TypeName.ofString, name.IsExpressible := by
  intro name member
  obtain ⟨raw, filled, rfl⟩ := Option.map_eq_some_iff.mp member
  exact of_string_expressible (of_decide_eq_true (Option.filter_eq_some_iff.mp filled).2)

open Reader

variable {path : String} {node : Node}

theorem simple_type_expressible (node : Node) : (simpleType node).IsExpressible :=
  name_expressible _

theorem type_among_expressible {nodes : List Node} {type : TypeRef}
    (read : typeAmong path nodes = .ok type) : type.IsExpressible := by
  fun_induction typeAmong path nodes generalizing type with
  | case1 =>
      cases read
      exact fun _ absent => absurd absent (Option.not_mem_none _)
  | case2 _ _ ih => exact ih read
  | case3 =>
      cases read
      exact simple_type_expressible _
  | case4 =>
      cases read
      exact simple_type_expressible _
  | case5 =>
      rename_i ih
      obtain ⟨size, sized, later⟩ := bind_eq_ok_iff.mp read
      obtain ⟨element, inner, same⟩ := bind_eq_ok_iff.mp later
      cases same
      refine ⟨ih inner, fun number own => ?_⟩
      have numeral := array_size_eq_ok_iff.mp sized
      rw [Option.mem_def.mp own] at numeral
      obtain ⟨text, _, short⟩ := Option.map_eq_some_iff.mp numeral
      exact short_of_integer short
  | case6 _ _ _ _ _ _ ih => exact ih read

end Types

section Members

open Reader

variable {path : String} {node : Node}

theorem type_of_expressible {type : TypeRef} (read : typeOf path node = .ok type) :
    type.IsExpressible :=
  type_among_expressible read

theorem of_mapM_eq_ok {α β : Type} {read : α → Except Stop β} {items : List α} {values : List β}
    (result : items.mapM read = .ok values) :
    ∀ value ∈ values, ∃ item ∈ items, read item = .ok value := by
  induction items generalizing values with
  | nil =>
      rw [mapM_nil_eq_ok_iff.mp result]
      exact List.forall_mem_nil _
  | cons item rest ih =>
      obtain ⟨first, others, here, later, rfl⟩ := mapM_cons_eq_ok_iff.mp result
      refine List.forall_mem_cons.mpr ⟨⟨item, List.mem_cons_self, here⟩, fun value member => ?_⟩
      obtain ⟨source, inside, given⟩ := ih later value member
      exact ⟨source, List.mem_cons_of_mem item inside, given⟩

theorem of_each_eq_ok {α : Type} {read : Node → Except Stop α} {tag : ExpandedName}
    {values : List α} {good : α → Prop} (holds : ∀ child value, read child = .ok value → good value)
    (result : each node tag read = .ok values) : ∀ value ∈ values, good value := by
  intro value member
  obtain ⟨child, _, given⟩ := of_mapM_eq_ok result value member
  exact holds child value given

theorem parameter_expressible {parameter : Parameter}
    (read : Reader.parameter path node = .ok (some parameter)) : parameter.IsExpressible := by
  have own : isParameter node := by
    by_contra other
    rw [parameter_of_other (by simpa using other)] at read
    cases read
  simp only [isParameter, Bool.or_eq_true, decide_eq_true_eq] at own
  rcases own with tagged | tagged
  · obtain ⟨_, _, type, typed, given⟩ := (instance_parameter_eq_ok_iff tagged).mp read
    unfold Parameter.IsExpressible
    rw [given]
    exact type_of_expressible typed
  · obtain ⟨_, plain, rest⟩ := (parameter_eq_ok_iff tagged).mp read
    unfold Parameter.IsExpressible
    split at rest
    · rw [rest]
      exact plain
    · obtain ⟨type, typed, given⟩ := rest
      rw [given]
      exact type_of_expressible typed

theorem parameters_expressible {list : List Parameter}
    (read : Reader.parameters path node = .ok list) :
    ∀ parameter ∈ list, parameter.IsExpressible := by
  have result := parameters_eq_ok_iff.mp read
  split at result
  · rw [result]
    exact List.forall_mem_nil _
  · intro parameter member
    obtain ⟨child, _, given⟩ := of_mapM_eq_ok result _ (List.mem_map_of_mem member)
    exact parameter_expressible given

theorem return_value_expressible {returns : ReturnValue}
    (read : returnValue path node = .ok returns) : returns.type.IsExpressible := by
  have result := return_value_eq_ok_iff.mp read
  split at result
  · rw [result]
    intro name own
    cases own
    exact ⟨by decide, by decide⟩
  · exact type_of_expressible result.1

theorem callback_expressible {callback : Callback}
    (read : Reader.callback path node = .ok callback) : callback.IsExpressible := by
  obtain ⟨_, list, result⟩ := callback_eq_ok_iff.mp read
  exact ⟨parameters_expressible list, return_value_expressible result⟩

theorem callable_expressible {callable : Callable}
    (read : Reader.callable path node = .ok callable) : callable.IsExpressible := by
  obtain ⟨_, symbol, list, result, _⟩ := callable_eq_ok_iff.mp read
  refine ⟨fun empty => ?_, parameters_expressible list, return_value_expressible result⟩
  cases given : filled? (node.attribute? (inC "identifier")) with
  | none =>
      rw [given] at symbol
      exact symbol.symm.trans empty
  | some text =>
      rw [given] at symbol
      have full := of_decide_eq_true (Option.filter_eq_some_iff.mp given).2
      exact absurd (symbol.symm.trans empty) full

theorem signal_expressible {signal : Signal} (read : Reader.signal path node = .ok signal) :
    signal.IsExpressible := by
  obtain ⟨_, list, result⟩ := signal_eq_ok_iff.mp read
  exact ⟨parameters_expressible list, return_value_expressible result⟩

theorem constant_expressible {constant : Constant}
    (read : Reader.constant path node = .ok constant) : constant.IsExpressible :=
  type_of_expressible (constant_eq_ok_iff.mp read).2.1

theorem field_expressible {field : Field} (read : Reader.field path node = .ok field) :
    field.IsExpressible := by
  obtain ⟨_, rest⟩ := field_eq_ok_iff.mp read
  unfold Field.IsExpressible
  split at rest
  · obtain ⟨signature, given, same⟩ := rest
    rw [same]
    exact callback_expressible given
  · obtain ⟨type, given, same⟩ := rest
    rw [same]
    exact type_of_expressible given

theorem member_expressible {entry : Member} (read : Reader.member path node = .ok entry) :
    entry.IsExpressible := by
  obtain ⟨_, text, _, numeral⟩ := member_eq_ok_iff.mp read
  exact short_of_integer numeral

theorem alias_expressible {entry : Alias} (read : aliasEntry path node = .ok entry) :
    entry.IsExpressible := by
  obtain ⟨_, typed⟩ := alias_eq_ok_iff.mp read
  unfold Alias.IsExpressible
  rw [← typed, simpleTypeOf]
  split
  · exact simple_type_expressible _
  · exact fun _ absent => nomatch absent

end Members

section Owners

open Reader

variable {path : String} {node : Node}

theorem class_expressible {type : Class} (read : classEntry path node = .ok type) :
    type.IsExpressible := by
  obtain ⟨_, parent, fields, functions, constructors, methods, signals, constants⟩ :=
    class_eq_ok_iff.mp read
  constructor
  · rw [parent]
    exact name_expressible _
  · exact of_each_eq_ok (fun _ _ => field_expressible) fields
  · exact of_each_eq_ok (fun _ _ => callable_expressible) functions
  · exact of_each_eq_ok (fun _ _ => callable_expressible) constructors
  · exact of_each_eq_ok (fun _ _ => callable_expressible) methods
  · exact of_each_eq_ok (fun _ _ => signal_expressible) signals
  · exact of_each_eq_ok (fun _ _ => constant_expressible) constants

theorem interface_expressible {type : Interface} (read : interfaceEntry path node = .ok type) :
    type.IsExpressible := by
  obtain ⟨_, functions, constructors, methods, signals, constants⟩ :=
    interface_eq_ok_iff.mp read
  constructor
  · exact of_each_eq_ok (fun _ _ => callable_expressible) functions
  · exact of_each_eq_ok (fun _ _ => callable_expressible) constructors
  · exact of_each_eq_ok (fun _ _ => callable_expressible) methods
  · exact of_each_eq_ok (fun _ _ => signal_expressible) signals
  · exact of_each_eq_ok (fun _ _ => constant_expressible) constants

theorem compound_expressible {type : Compound} (read : compoundEntry path node = .ok type) :
    type.IsExpressible := by
  obtain ⟨_, fields, functions, constructors, methods⟩ := compound_eq_ok_iff.mp read
  constructor
  · exact of_each_eq_ok (fun _ _ => field_expressible) fields
  · exact of_each_eq_ok (fun _ _ => callable_expressible) functions
  · exact of_each_eq_ok (fun _ _ => callable_expressible) constructors
  · exact of_each_eq_ok (fun _ _ => callable_expressible) methods

theorem enumeration_expressible {type : Enumeration}
    (read : enumerationEntry path node = .ok type) : type.IsExpressible := by
  obtain ⟨_, members, functions⟩ := enumeration_eq_ok_iff.mp read
  constructor
  · exact of_each_eq_ok (fun _ _ => member_expressible) members
  · exact of_each_eq_ok (fun _ _ => callable_expressible) functions

theorem namespace_expressible {space : Namespace} (read : namespaceEntry path node = .ok space) :
    space.IsExpressible := by
  obtain ⟨_, _, entries⟩ := namespace_eq_ok_iff.mp read
  constructor
  · exact of_each_eq_ok (fun _ _ => alias_expressible) (entries .synonym)
  · exact of_each_eq_ok (fun _ _ => class_expressible) (entries .classType)
  · exact of_each_eq_ok (fun _ _ => interface_expressible) (entries .interface)
  · exact of_each_eq_ok (fun _ _ => compound_expressible) (entries .record)
  · exact of_each_eq_ok (fun _ _ => compound_expressible) (entries .union)
  · exact of_each_eq_ok (fun _ _ => enumeration_expressible) (entries .enumeration)
  · exact of_each_eq_ok (fun _ _ => enumeration_expressible) (entries .bitField)
  · exact of_each_eq_ok (fun _ _ => callable_expressible) (entries .function)
  · exact of_each_eq_ok (fun _ _ => callback_expressible) (entries .callback)
  · exact of_each_eq_ok (fun _ _ => constant_expressible) (entries .constant)

/-- Whatever is read of a tree can be expressed, and has the path it is read under. -/
theorem repository_expressible {value : Repository} (read : repository path node = .ok value) :
    value.IsExpressible ∧ value.path = path := by
  obtain ⟨_, origin, _, namespaces⟩ := repository_eq_ok_iff.mp read
  exact ⟨of_each_eq_ok (fun _ _ => namespace_expressible) namespaces, origin⟩

end Owners

end ZigBindings
