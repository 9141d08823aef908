/-!
# Trees of markup

A document is a tree of elements with text between them. Tags and attribute names are expanded: a
name space and a name in it, without regard to how the document abbreviates the space.
-/

namespace ZigBindings.Markup

structure ExpandedName where
  space : Option String
  base : String
  deriving DecidableEq

/-- The one-line form of an expanded name: the space in braces, then the name. -/
def ExpandedName.text (name : ExpandedName) : String :=
  match name.space with
  | none => name.base
  | some space => "\x7b" ++ space ++ "\x7d" ++ name.base

/-- An element with its attributes and children, or text between elements. -/
inductive Node where
  | element (tag : ExpandedName) (attributes : List (ExpandedName × String)) (children : List Node)
  | text (content : String)

def Node.tag? : Node → Option ExpandedName
  | .element tag _ _ => some tag
  | .text _ => none

def Node.children : Node → List Node
  | .element _ _ children => children
  | .text _ => []

def Node.attribute? (node : Node) (name : ExpandedName) : Option String :=
  match node with
  | .element _ attributes _ => attributes.lookup name
  | .text _ => none

def Node.childrenTagged (node : Node) (tag : ExpandedName) : List Node :=
  node.children.filter fun child => child.tag? = some tag

def Node.childTagged? (node : Node) (tag : ExpandedName) : Option Node :=
  node.children.find? fun child => child.tag? = some tag

end ZigBindings.Markup
