import Mathlib.Data.List.Basic
import Mathlib.Logic.Relation
import ZigBindings.Repository.Reader

/-!
# The rules of documents

Which elements of a document are looked at, in which role, and what each role asks of an element:
attributes that have to be there, and one that has to be a number. The rules are told without
reading anything, from the tree alone; the reading is compared with them.
-/

namespace ZigBindings

open ZigBindings.Markup

@[simp]
theorem core_inj {base other : String} : core base = core other ↔ base = other := by
  simp [core]

/-- What an element is taken for. Records and unions are compounds, sets of flags are enumerations;
functions, constructors, methods and signals are callables. -/
inductive Role where
  | document
  | included
  | space
  | synonym
  | classType
  | interface
  | compound
  | enumeration
  | member
  | callable
  | callback
  | field
  | constant
  | instanceParameter
  | parameter
  | result
  | array
  deriving DecidableEq

namespace Role

def needs : Role → List String
  | .document => []
  | .included => ["name", "version"]
  | .space => ["name"]
  | .synonym => ["name"]
  | .classType => ["name"]
  | .interface => ["name"]
  | .compound => ["name"]
  | .enumeration => ["name"]
  | .member => ["value", "name"]
  | .callable => ["name"]
  | .callback => []
  | .field => ["name"]
  | .constant => ["name", "value"]
  | .instanceParameter => ["name"]
  | .parameter => ["name"]
  | .result => []
  | .array => []

def number? : Role → Option String
  | .member => some "value"
  | .array => some "fixed-size"
  | _ => none

structure Obeys (role : Role) (node : Node) : Prop where
  present : ∀ name ∈ role.needs, (Reader.attribute? node name).isSome
  numeric : ∀ name ∈ role.number?, ∀ value, Reader.attribute? node name = some value →
    (Text.integer? value.toList).isSome

theorem obeys_element_iff {role : Role} {tag : ExpandedName}
    {attributes : List (ExpandedName × String)} (children others : List Node) :
    role.Obeys (.element tag attributes children) ↔ role.Obeys (.element tag attributes others) :=
  ⟨fun obeys => ⟨obeys.present, obeys.numeric⟩, fun obeys => ⟨obeys.present, obeys.numeric⟩⟩

def each (node : Node) (tag : ExpandedName) (role : Role) : List (Role × Node) :=
  (node.childrenTagged tag).map fun child => (role, child)

/-- The array that gives a type: the first type or array among some nodes, if it is an array without
a name. -/
def arrayAmong (nodes : List Node) : List (Role × Node) :=
  match nodes.find? fun node => node.tag? = some (core "type") || node.tag? = some (core "array") with
  | some node =>
    if node.tag? = some (core "array") ∧ Reader.filled? (Reader.attribute? node "name") = none then
      [(.array, node)]
    else []
  | none => []

/-- The parameters in the first parameter list of an element. -/
def parameterList (node : Node) : List (Role × Node) :=
  match node.childTagged? (core "parameters") with
  | some list =>
    each list (core "instance-parameter") .instanceParameter ++
      each list (core "parameter") .parameter
  | none => []

def returned (node : Node) : List (Role × Node) :=
  match node.childTagged? (core "return-value") with
  | some child => [(.result, child)]
  | none => []

def signature (node : Node) : List (Role × Node) :=
  parameterList node ++ returned node

def callables (node : Node) : List (Role × Node) :=
  each node (core "function") .callable ++ each node (core "constructor") .callable ++
    each node (core "method") .callable

/-- The elements that are looked at within an element, with their roles. -/
def within : Role → Node → List (Role × Node)
  | .document, node => each node (core "include") .included ++ each node (core "namespace") .space
  | .included, _ => []
  | .space, node =>
    each node (core "alias") .synonym ++ each node (core "class") .classType ++
      each node (core "interface") .interface ++ each node (core "record") .compound ++
      each node (core "union") .compound ++ each node (core "enumeration") .enumeration ++
      each node (core "bitfield") .enumeration ++ each node (core "function") .callable ++
      each node (core "callback") .callback ++ each node (core "constant") .constant
  | .synonym, _ => []
  | .classType, node =>
    each node (core "field") .field ++ callables node ++ each node signalTag .callable ++
      each node (core "constant") .constant
  | .interface, node =>
    callables node ++ each node signalTag .callable ++ each node (core "constant") .constant
  | .compound, node => each node (core "field") .field ++ callables node
  | .enumeration, node => each node (core "member") .member ++ each node (core "function") .callable
  | .member, _ => []
  | .callable, node => signature node
  | .callback, node => signature node
  | .field, node =>
    match node.childTagged? (core "callback") with
    | some child => [(.callback, child)]
    | none => arrayAmong node.children
  | .constant, node => arrayAmong node.children
  | .instanceParameter, node => arrayAmong node.children
  | .parameter, node =>
    if (node.childTagged? (core "varargs")).isSome then [] else arrayAmong node.children
  | .result, node => arrayAmong node.children
  | .array, node => arrayAmong node.children

/-- Whether an element is looked at, in a role, directly or not, when another one is. -/
abbrev Visits : Role × Node → Role × Node → Prop :=
  Relation.ReflTransGen fun outer inner => inner ∈ outer.1.within outer.2

/-- Whether an element obeys its rule, and so does all that is looked at within it. -/
def Sound (role : Role) (node : Node) : Prop :=
  ∀ inner, Visits (role, node) inner → inner.1.Obeys inner.2

theorem sound_iff {role : Role} {node : Node} :
    role.Sound node ↔ role.Obeys node ∧ ∀ inner ∈ role.within node, inner.1.Sound inner.2 := by
  constructor
  · intro sound
    exact ⟨sound _ .refl, fun inner member below visits => sound below (.head member visits)⟩
  · rintro ⟨obeys, deeper⟩ inner visits
    rcases Relation.ReflTransGen.cases_head visits with same | ⟨next, member, below⟩
    · rw [← same]
      exact obeys
    · exact deeper next member inner below

theorem array_among_cons (node : Node) (rest : List Node) :
    arrayAmong (node :: rest) =
      if node.tag? = some (core "type") then []
      else if node.tag? = some (core "array") then
        if Reader.filled? (Reader.attribute? node "name") = none then [(.array, node)] else []
      else arrayAmong rest := by
  by_cases type : node.tag? = some (core "type")
  · simp [arrayAmong, type]
  · by_cases array : node.tag? = some (core "array")
    · simp [arrayAmong, array]
    · simp [arrayAmong, type, array]

theorem forall_each_iff {node : Node} {tag : ExpandedName} {role : Role} :
    (∀ inner ∈ each node tag role, inner.1.Sound inner.2) ↔
      ∀ child ∈ node.childrenTagged tag, role.Sound child := by
  simp [each]

end Role

end ZigBindings
