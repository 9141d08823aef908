import ZigBindings.Markup.Doctype
import ZigBindings.Markup.Tree

/-!
# Name spaces in scope

An element may declare abbreviations of name spaces, which hold for itself and what it contains.
This module turns a tag as it is written into expanded names: it completes the attributes from the
document type, takes the declarations of name spaces out of them and expands the rest.
-/

namespace ZigBindings.Markup

/-- The abbreviations in scope, the innermost first. The one without a name is the default. -/
abbrev Scope := List (Option String × String)

def xmlSpace : String :=
  "http://www.w3.org/XML/1998/namespace"

def declarationSpace : String :=
  "http://www.w3.org/2000/xmlns/"

def Scope.initial : Scope :=
  [(some "xml", xmlSpace)]

def declaredQualifier? (name : RawName) : Option (Option String) :=
  match name.qualifier with
  | none => if name.base = "xmlns" then some none else none
  | some "xmlns" => some (some name.base)
  | some _ => none

/-- Whether an abbreviation may stand for a name space. Only the default can be taken back, the
reserved abbreviations and spaces belong to each other, and a closing brace would end the space
in the one-line form of a name. -/
def mayStandFor (qualifier : Option String) (space : String) : Bool :=
  (space ≠ "" || qualifier.isNone) && qualifier ≠ some "xmlns" &&
    ((qualifier == some "xml") == (space == xmlSpace)) && space ≠ declarationSpace &&
    !space.toList.contains '\x7d'

/-- The name space that a qualifier stands for; an empty default stands for none. -/
def Scope.find? (scope : Scope) (qualifier : Option String) : Option (Option String) :=
  match qualifier, scope.lookup qualifier with
  | none, none => some none
  | none, some space => some (if space = "" then none else some space)
  | some _, none => none
  | some _, some space => some (some space)

def allDistinct {α : Type} [BEq α] : List α → Bool
  | [] => true
  | first :: rest => !rest.contains first && allDistinct rest

def Doctype.value (doctype : Doctype) (element name : RawName) (pieces : List Piece) :
    Option String := do
  let text ← doctype.expand pieces
  let rule := doctype.rules.find? fun rule => rule.element = element && rule.name = name
  let isPlain := (rule.map (·.isPlain)).getD true
  return String.ofList (if isPlain then text else Doctype.collapse text)

/-- The attributes that the document type gives to an element on which they are not written. -/
def Doctype.defaults (doctype : Doctype) (element : RawName) (written : List RawName) :
    List (RawName × String) :=
  doctype.rules.filterMap fun rule => do
    if rule.element = element && !written.contains rule.name then
      return (rule.name, String.ofList (← rule.value))
    else none

/-- The expanded form of an attribute name, which the default name space does not concern. -/
def Scope.attributeName? (scope : Scope) (name : RawName) : Option ExpandedName :=
  match name.qualifier with
  | none => some ⟨none, name.base⟩
  | some qualifier => (scope.find? (some qualifier)).map (⟨·, name.base⟩)

def Scope.elementName? (scope : Scope) (name : RawName) : Option ExpandedName :=
  (scope.find? name.qualifier).map (⟨·, name.base⟩)

structure Tag where
  name : ExpandedName
  attributes : List (ExpandedName × String)
  scope : Scope

/-- The expanded form of a tag. No attribute may be given twice, neither as written nor after
expansion, and every abbreviation must be in scope. -/
def Doctype.tag? (doctype : Doctype) (scope : Scope) (name : RawName)
    (attributes : List (RawName × List Piece)) : Option Tag := do
  let written := attributes.map (·.1)
  let values ← attributes.mapM fun (key, pieces) => do
    return (key, ← doctype.value name key pieces)
  let values := values ++ doctype.defaults name written
  let declarations := values.filterMap fun (key, value) =>
    (declaredQualifier? key).map fun qualifier => (qualifier, value)
  let inner : Scope := declarations ++ scope
  let others := values.filter fun (key, _) => (declaredQualifier? key).isNone
  let expanded ← others.mapM fun (key, value) => do
    return (← inner.attributeName? key, value)
  let tag ← inner.elementName? name
  let qualified := (expanded.map (·.1)).filter (·.space.isSome)
  if allDistinct written && allDistinct qualified &&
      declarations.all (fun (qualifier, space) => mayStandFor qualifier space) then
    return ⟨tag, expanded, inner⟩
  else none

end ZigBindings.Markup
