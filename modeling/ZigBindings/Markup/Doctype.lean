import ZigBindings.Markup.Token

/-!
# Document types

What the declarations before the root of a document amount to: entities, which stand for text, and
rules for the attributes of elements. An entity may refer to others but not, directly or through
them, to itself, and its text may not grow without bound.
-/

namespace ZigBindings.Markup

open Scan

inductive Entity where
  | internal (content : List Char)
  | external
  deriving DecidableEq

/-- A declared attribute of an element. Values of other types than plain text have their blanks
collapsed; the declaration may give a value for elements without the attribute. -/
structure AttributeRule where
  element : RawName
  name : RawName
  isPlain : Bool
  value : Option (List Char)

structure Doctype where
  standalone : Bool := false
  /-- Some declarations may be missing, because they stand where they are not read. -/
  isPartial : Bool := false
  /-- Declarations that are met are no longer taken into account. -/
  isClosed : Bool := false
  entities : List (String × Entity) := []
  rules : List AttributeRule := []

/-- Whether an entity without a declaration is an error. -/
def Doctype.isComplete (doctype : Doctype) : Bool :=
  !doctype.isPartial || doctype.standalone

namespace Doctype

/-- Expands the parts of a value, entities to the given depth. References to entities that may be
declared elsewhere are dropped; an entity may not contain itself. -/
def expandWithin (doctype : Doctype) : Nat → List String → List Piece → Option (List Char)
  | 0, _, _ => none
  | depth + 1, inside, pieces => do
    let parts ← pieces.mapM fun piece =>
      match piece with
      | .char c => some [c]
      | .entity name =>
        match doctype.entities.lookup name with
        | none => if doctype.isComplete then none else some []
        | some .external => none
        | some (.internal content) =>
          if inside.contains name then none
          else do
            let pieces ← valuePieces .tables content
            expandWithin doctype depth (name :: inside) pieces
    return parts.flatten

def expand (doctype : Doctype) (pieces : List Piece) : Option (List Char) :=
  doctype.expandWithin (doctype.entities.length + 1) [] pieces

def references : List Char → List String
  | [] => []
  | '&' :: rest => String.ofList (rest.takeWhile (· ≠ ';')) :: references rest
  | _ :: rest => references rest

/-- The length of an entity's text when what it refers to has the given lengths. -/
def fullLength (lengths : List (String × Nat)) : Entity → Nat
  | .external => 0
  | .internal content =>
    (references content).foldl (fun total name => total + (lengths.lookup name).getD 0)
      content.length

/-- The lengths of all entities, counted to the given depth of references. -/
def lengthsWithin (doctype : Doctype) : Nat → List (String × Nat)
  | 0 => []
  | depth + 1 =>
    let inner := doctype.lengthsWithin depth
    doctype.entities.map fun (name, entity) => (name, fullLength inner entity)

def growthLimit : Nat := 8388608

/-- The document type in which entities that grow beyond the limit cannot be used. -/
def bounded (doctype : Doctype) : Doctype :=
  let lengths := doctype.lengthsWithin doctype.entities.length
  let refuse (name : String) (entity : Entity) : Entity :=
    if growthLimit < (lengths.lookup name).getD 0 then .external else entity
  { doctype with entities := doctype.entities.map fun (name, entity) => (name, refuse name entity) }

def collapse (text : List Char) : List Char :=
  let rec go (blank : Bool) : List Char → List Char
    | [] => []
    | c :: rest =>
      if c = ' ' then go true rest
      else if blank then ' ' :: c :: go false rest
      else c :: go false rest
  go false (text.dropWhile (· = ' '))

/-- Adds an entity; the first declaration of a name counts, and the predefined ones stay. -/
def addEntity (doctype : Doctype) (name : String) (entity : Entity) : Doctype :=
  if (predefinedEntities.lookup name).isSome || (doctype.entities.lookup name).isSome then doctype
  else { doctype with entities := doctype.entities ++ [(name, entity)] }

/-- Adds a rule; the first one for an attribute of an element counts. -/
def addRule (doctype : Doctype) (rule : AttributeRule) : Doctype :=
  if doctype.rules.any fun old =>
    old.element = rule.element && old.name = rule.name then doctype
  else { doctype with rules := doctype.rules ++ [rule] }

end Doctype

end ZigBindings.Markup
