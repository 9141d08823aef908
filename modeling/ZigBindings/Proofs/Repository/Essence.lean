import Mathlib.Data.List.Basic
import Mathlib.Tactic.SplitIfs
import ZigBindings.Proofs.Repository.Kinds
import ZigBindings.Proofs.Repository.Shelves

/-!
# What the reading asks for

For every tag there are attributes and children that are asked for in an element with that tag; all
other attributes, all other children and all text are passed over. In types and in the elements
around them, children with different tags may stand in any order. The essence of a tree is what is
left of it when nothing is kept but what is asked for.
-/

namespace ZigBindings

open ZigBindings.Markup

/-- What is asked of an element: attributes, and children by their tags. -/
structure Interest where
  attributes : List ExpandedName := []
  children : List ExpandedName := []
  /-- Whether the order of children with different tags has no part in the reading. -/
  anyOrder : Bool := false
  deriving DecidableEq

namespace Interest

def plain (names : List String) : List ExpandedName :=
  names.map fun name => ⟨none, name⟩

def types : List ExpandedName :=
  [core "type", core "array"]

def callables : List ExpandedName :=
  [core "function", core "constructor", core "method"]

def root : Interest where
  children := [core "include", core "namespace"]
  anyOrder := true

def included : Interest where
  attributes := plain ["name", "version"]

def space : Interest where
  attributes := plain ["name", "version"]
  children := Kind.all.map Kind.tag
  anyOrder := true

def synonym : Interest where
  attributes := plain ["name"]
  children := [core "type"]

def classType : Interest where
  attributes := plain ["name", "parent"]
  children := core "field" :: callables ++ [signalTag, core "constant"]
  anyOrder := true

def interfaceType : Interest where
  attributes := plain ["name"]
  children := callables ++ [signalTag, core "constant"]
  anyOrder := true

def compound : Interest where
  attributes := plain ["name"]
  children := core "field" :: callables
  anyOrder := true

def enumeration : Interest where
  attributes := plain ["name"]
  children := [core "member", core "function"]
  anyOrder := true

def member : Interest where
  attributes := plain ["name", "value"]

def callable : Interest where
  attributes := plain ["name", "moved-to"] ++ [inC "identifier"]
  children := [core "parameters", core "return-value"]

def signature : Interest where
  attributes := plain ["name"]
  children := [core "parameters", core "return-value"]

def field : Interest where
  attributes := plain ["name"]
  children := core "callback" :: types

def constant : Interest where
  attributes := plain ["name", "value"]
  children := types

def parameterList : Interest where
  children := [core "instance-parameter", core "parameter"]

def instanceParameter : Interest where
  attributes := plain ["name"]
  children := types

def parameter : Interest where
  attributes := plain ["name"]
  children := core "varargs" :: types

def result : Interest where
  attributes := plain ["nullable", "allow-none"]
  children := types

def simpleType : Interest where
  attributes := plain ["name"] ++ [inC "type"]

def arrayType : Interest where
  attributes := plain ["name", "fixed-size"] ++ [inC "type"]
  children := types

/-- All names of elements for which anything is asked, signals apart. -/
def table : List (String × Interest) :=
  [
    ("repository", root),
    ("include", included),
    ("namespace", space),
    ("alias", synonym),
    ("class", classType),
    ("interface", interfaceType),
    ("record", compound),
    ("union", compound),
    ("enumeration", enumeration),
    ("bitfield", enumeration),
    ("member", member),
    ("function", callable),
    ("constructor", callable),
    ("method", callable),
    ("callback", signature),
    ("field", field),
    ("constant", constant),
    ("parameters", parameterList),
    ("instance-parameter", instanceParameter),
    ("parameter", parameter),
    ("return-value", result),
    ("type", simpleType),
    ("array", arrayType)
  ]

end Interest

/-- What is asked of an element with a tag; nothing, if the tag is not known. -/
def asked (tag : ExpandedName) : Interest :=
  if tag = signalTag then .signature
  else if tag.space = some coreSpace then (Interest.table.lookup tag.base).getD {}
  else {}

theorem asked_row {base : String} {interest : Interest} (row : (base, interest) ∈ Interest.table) :
    asked (core base) = interest := by
  have rows : ∀ row ∈ Interest.table, asked (core row.1) = row.2 := by decide +kernel
  exact rows _ row

/-- The node is an element of which just this is asked. -/
def Markup.Node.Asks (node : Node) (interest : Interest) : Prop :=
  node.tag?.map asked = some interest

theorem asks_of_row {base : String} {interest : Interest} {node : Node}
    (tagged : node.tag? = some (core base)) (row : (base, interest) ∈ Interest.table) :
    node.Asks interest := by
  rw [Node.Asks, tagged, Option.map_some, asked_row row]

def keptAttributes (interest : Interest) (attributes : List (ExpandedName × String)) :
    List (ExpandedName × String) :=
  attributes.filter fun entry => entry.1 ∈ interest.attributes

def isAsked (interest : Interest) (child : Node) : Bool :=
  interest.children.any fun own => child.tag? = some own

/-- The children that are asked for, by their tags if the order of these has no part in the
reading. -/
def keptChildren (interest : Interest) (children : List Node) : List Node :=
  if interest.anyOrder then
    interest.children.flatMap fun own => children.filter fun child => child.tag? = some own
  else
    children.filter (isAsked interest)

mutual

/-- What is left of a tree without what the reading does not ask for. -/
def essence : Node → Node
  | .text _ => .text ""
  | .element tag attributes children =>
    .element tag (keptAttributes (asked tag) attributes)
      (keptChildren (asked tag) (essences children))

def essences : List Node → List Node
  | [] => []
  | node :: rest => essence node :: essences rest

end

theorem essences_eq_map (nodes : List Node) : essences nodes = nodes.map essence := by
  induction nodes with
  | nil => rfl
  | cons node rest ih => rw [essences, ih, List.map_cons]

@[simp]
theorem tag_essence (node : Node) : (essence node).tag? = node.tag? := by
  cases node <;> rfl

theorem filter_essences (own : ExpandedName) (nodes : List Node) :
    (essences nodes).filter (fun node => node.tag? = some own) =
      (nodes.filter fun node => node.tag? = some own).map essence := by
  rw [essences_eq_map, List.filter_map]
  congr 1
  exact List.filter_congr fun node _ => by simp

section Kept

variable {interest : Interest} {name own : ExpandedName} {node : Node}

theorem lookup_kept (attributes : List (ExpandedName × String))
    (wanted : name ∈ interest.attributes) :
    (keptAttributes interest attributes).lookup name = attributes.lookup name := by
  unfold keptAttributes
  induction attributes with
  | nil => rfl
  | cons entry rest ih =>
      obtain ⟨other, value⟩ := entry
      by_cases kept : other ∈ interest.attributes
      · rw [List.filter_cons_of_pos (by simpa using kept), List.lookup_cons, List.lookup_cons, ih]
      · have differ : (name == other) = false := by
          rw [beq_eq_false_iff_ne]
          rintro rfl
          exact kept wanted
        rw [List.filter_cons_of_neg (by simpa using kept), List.lookup_cons, differ, ih]

theorem attribute_essence (asks : node.Asks interest) (wanted : name ∈ interest.attributes) :
    (essence node).attribute? name = node.attribute? name := by
  cases node with
  | text content => cases asks
  | element tag attributes children =>
      cases asks
      exact lookup_kept attributes wanted

theorem asked_distinct (tag : ExpandedName) : (asked tag).children.Nodup := by
  have listed : ∀ row ∈ Interest.table, row.2.children.Nodup := by decide +kernel
  unfold asked
  split_ifs
  · exact listed ("callback", .signature) (by simp [Interest.table])
  · cases found : Interest.table.lookup tag.base with
    | none => exact List.nodup_nil
    | some interest =>
        obtain ⟨before, behind, split, _⟩ := List.lookup_eq_some_iff.mp found
        exact listed (tag.base, interest) (by rw [split]; simp)
  · exact List.nodup_nil

theorem filter_kept (children : List Node) (distinct : interest.children.Nodup)
    (wanted : own ∈ interest.children) :
    (keptChildren interest children).filter (fun child => child.tag? = some own) =
      children.filter fun child => child.tag? = some own := by
  unfold keptChildren
  split
  · have proper : Shelves.IsProper (interest.children.map fun other =>
        (other, children.filter fun child => child.tag? = some other)) := by
      constructor
      · rw [List.map_map]
        exact (List.map_id _).symm ▸ distinct
      · intro shelf member child held
        obtain ⟨other, _, rfl⟩ := List.mem_map.mp member
        exact of_decide_eq_true (List.mem_filter.mp held).2
    have found := filter_shelves proper (List.mem_map_of_mem wanted)
    rwa [List.flatMap_map] at found
  · rw [List.filter_filter]
    refine List.filter_congr fun child _ => ?_
    by_cases here : child.tag? = some own
    · have kept : isAsked interest child := List.any_eq_true.mpr ⟨own, wanted, by simp [here]⟩
      simp [here, kept]
    · simp [here]

theorem children_essence (asks : node.Asks interest) :
    (essence node).children = keptChildren interest (node.children.map essence) := by
  cases node with
  | text content => cases asks
  | element tag attributes children =>
      cases asks
      rw [← essences_eq_map]
      rfl

theorem children_tagged_essence (asks : node.Asks interest) (wanted : own ∈ interest.children) :
    (essence node).childrenTagged own = (node.childrenTagged own).map essence := by
  have distinct : interest.children.Nodup := by
    obtain ⟨tag, _, rfl⟩ := Option.map_eq_some_iff.mp asks
    exact asked_distinct tag
  rw [Node.childrenTagged, children_essence asks, filter_kept _ distinct wanted,
    ← essences_eq_map, filter_essences, Node.childrenTagged]

theorem child_tagged_essence (asks : node.Asks interest) (wanted : own ∈ interest.children) :
    (essence node).childTagged? own = (node.childTagged? own).map essence := by
  have first (other : Node) : other.childTagged? own = (other.childrenTagged own).head? := by
    rw [Node.childTagged?, Node.childrenTagged, List.head?_filter]
  rw [first, first, children_tagged_essence asks wanted, List.head?_map]

theorem tag_of_child_tagged {child : Node} (found : node.childTagged? own = some child) :
    child.tag? = some own := by
  unfold Node.childTagged? at found
  simpa using List.find?_some found

end Kept

end ZigBindings
