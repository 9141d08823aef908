import ZigBindings.Markup.Encoding
import ZigBindings.Markup.Scope
import ZigBindings.Markup.Subset

/-!
# Documents

From the bytes of a document to its tree. A document is well formed if its tags match, its
references lead to entities that are declared and do not contain themselves, and nothing but
remarks and blanks stands outside its root.
-/

namespace ZigBindings.Markup

/-- An element whose end has not been met: its tag, and its children so far, the last first. -/
structure Pending where
  written : RawName
  tag : Tag
  before : List Node

/-- The tree under construction: the open elements, innermost first, and the children so far of
the innermost, the last first. -/
structure Growth where
  pending : List Pending := []
  nodes : List Node := []

def Growth.scope (growth : Growth) (outer : Scope) : Scope :=
  (growth.pending.head?.map (·.tag.scope)).getD outer

def Growth.add (growth : Growth) (node : Node) : Growth :=
  { growth with nodes := node :: growth.nodes }

def Growth.step (doctype : Doctype) (outer : Scope) (entity : Scope → String → Option (List Node))
    (growth : Growth) (token : Token) : Option Growth :=
  match token with
  | .remark => some growth
  | .data content => some (growth.add (.text (String.ofList content)))
  | .verbatim content => some (growth.add (.text (String.ofList content)))
  | .entity name => do
    let nodes ← entity (growth.scope outer) name
    return { growth with nodes := nodes.reverse ++ growth.nodes }
  | .opening name attributes closed => do
    let tag ← doctype.tag? (growth.scope outer) name attributes
    if closed then return growth.add (.element tag.name tag.attributes [])
    else return ⟨⟨name, tag, growth.nodes⟩ :: growth.pending, []⟩
  | .closing name =>
    match growth.pending with
    | [] => none
    | innermost :: rest =>
      if innermost.written = name then
        let element := Node.element innermost.tag.name innermost.tag.attributes growth.nodes.reverse
        some ⟨rest, element :: innermost.before⟩
      else none

def forest (doctype : Doctype) (outer : Scope) (entity : Scope → String → Option (List Node))
    (content : List Token) : Option (List Node) := do
  let growth ← content.foldlM (Growth.step doctype outer entity) {}
  if growth.pending.isEmpty then some growth.nodes.reverse else none

/-- The nodes that an entity stands for, entities in it to the given depth. -/
def entityNodes (doctype : Doctype) : Nat → List String → Scope → String → Option (List Node)
  | 0, _, _, _ => none
  | depth + 1, inside, scope, name =>
    match doctype.entities.lookup name with
    | some (.internal content) =>
      if inside.contains name then none
      else do
        let tokens ← tokens .tables content
        forest doctype scope (entityNodes doctype depth (name :: inside)) tokens
    | _ => none

def Token.isOutside : Token → Bool
  | .remark => true
  | .data content => content.all isSpace
  | _ => false

def splitRoot : Nat → List Token → List Token × List Token
  | _, [] => ([], [])
  | depth, token :: rest =>
    let depth :=
      match token with
      | .opening _ _ false => depth + 1
      | .closing _ => depth - 1
      | _ => depth
    if depth = 0 then ([token], rest)
    else
      let (root, outside) := splitRoot depth rest
      (token :: root, outside)

def startsOpening : List Token → Bool
  | .opening .. :: _ => true
  | _ => false

/-- Blanks and remarks before the root, and the document type if one is declared. -/
def Scan.prologStep (alphabet : Alphabet) (standalone : Bool) (found : Option Doctype) :
    Scan (Option Doctype × Bool) := do
  spaces
  if ← optional "<!--" then
    comment
    return (found, true)
  else if ← optional "<?" then
    instruction alphabet
    return (found, true)
  else if ← optional "<!DOCTYPE" then
    guard found.isNone
    space
    return (some (← Scan.doctype alphabet standalone), true)
  else return (found, false)

def Scan.prolog (alphabet : Alphabet) (standalone : Bool) : Scan Doctype := do
  let found ← iterate (Scan.prologStep alphabet standalone) none
  return found.getD { standalone := standalone }

def root? (alphabet : Alphabet) (standalone : Bool) (text : List Char) : Option Node := do
  let (doctype, rest) ← Scan.prolog alphabet standalone text
  let doctype := doctype.bounded
  let (inside, outside) := splitRoot 0 (← tokens alphabet rest)
  let entity := entityNodes doctype (doctype.entities.length + 1) []
  let nodes ← forest doctype Scope.initial entity inside
  if startsOpening inside && outside.all Token.isOutside then nodes.head? else none

/-- A document as it comes: characters, or bytes whose encoding is still to be found. -/
inductive Source where
  | text (content : String)
  | bytes (content : List UInt8)

def Source.toBytes : Source → List UInt8
  | .text content => Text.utf8Bytes content.toList
  | .bytes content => content

inductive Outcome where
  | tree (root : Node)
  | malformed
  | unknownEncoding (name : String)

def Outcome.ofText (encoding : Encoding) (standalone : Bool) (declared : Bool)
    (bytes : List UInt8) : Outcome :=
  let root := do
    let text ← encoding.decode? bytes
    let (_, text) ← if declared then Scan.untilText "?>" text else some ([], text)
    root? encoding.alphabet standalone text
  match root with
  | some node => .tree node
  | none => .malformed

/-- The encoding that a declaration names, which counts for bytes only. -/
def Source.named? (source : Source) (declaration : Declaration) : Option String :=
  match source with
  | .text _ => none
  | .bytes _ => declaration.encoding

def Source.read (source : Source) : Outcome :=
  let (shown, content) := Encoding.detect source.toBytes
  let preview := shown.preview content
  if startsDeclared preview then
    match Scan.declaration (preview.drop 5) with
    | none => .malformed
    | some (declaration, _) =>
      match source.named? declaration with
      | none => .ofText shown declaration.standalone true content
      | some name =>
        match Encoding.declared shown name with
        | .agreed encoding => .ofText encoding declaration.standalone true content
        | .conflict => .malformed
        | .unknown => .unknownEncoding name
  else .ofText shown false false content

end ZigBindings.Markup
