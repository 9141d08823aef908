import ZigBindings.Markup.DeclToken
import ZigBindings.Markup.Doctype

/-!
# Document type declarations

Reads the declarations before the root of a document by the rules of a reader that does not
validate and that fetches nothing: references to parameter entities are not followed, and what
comes after one is ignored unless the document stands alone.
-/

namespace ZigBindings.Markup

open Scan

namespace Scan

/-- A part of the text of an entity. References to characters are replaced at once, references to
entities when the text is used. -/
def entityPart (alphabet : Alphabet) : Scan (List Char) := do
  let c ← next
  if c = '%' then failure
  else if c = '&' then
    if ← comes "#" then
      match ← reference alphabet with
      | .char c => return [c]
      | .entity _ => failure
    else
      let entity ← name alphabet
      char ';'
      return '&' :: entity.toList ++ [';']
  else return [c]

def entityText (alphabet : Alphabet) (literal : List Char) : Option (List Char) :=
  (all (entityPart alphabet) (unifyLineEnds literal)).map List.flatten

end Scan

/-- The rest of the declaration of an external entity or document type: one literal after
`SYSTEM`, two after `PUBLIC`. -/
def Scan.externalId (alphabet : Alphabet) (keyword : String) : Scan Unit := do
  if keyword = "PUBLIC" then publicId alphabet
  else guard (keyword = "SYSTEM")
  let _ ← declLiteral alphabet

def Scan.entityDecl (alphabet : Alphabet) (doctype : Doctype) : Scan Doctype := do
  let first ← declToken alphabet
  let isParameter := first = .percent
  let name ←
    match first with
    | .percent => declName alphabet
    | .name text => pure text
    | _ => failure
  let add (entity : Entity) : Doctype :=
    if isParameter || doctype.isClosed then doctype else doctype.addEntity name entity
  match ← declToken alphabet with
  | .literal literal =>
    declEnd alphabet
    if doctype.isClosed then return doctype
    match entityText alphabet literal with
    | some content => return add (.internal content)
    | none => failure
  | .name keyword =>
    externalId alphabet keyword
    match ← declToken alphabet with
    | .sign '>' => return add .external
    | .name "NDATA" =>
      guard (!isParameter)
      let _ ← declName alphabet
      declEnd alphabet
      return add .external
    | _ => failure
  | _ => failure

def Scan.notationDecl (alphabet : Alphabet) : Scan Unit := do
  let _ ← declName alphabet
  match ← declName alphabet with
  | "SYSTEM" =>
    let _ ← declLiteral alphabet
    declEnd alphabet
  | "PUBLIC" =>
    publicId alphabet
    match ← declToken alphabet with
    | .literal _ => declEnd alphabet
    | .sign '>' => return
    | _ => failure
  | _ => failure

/-- The rest of a content model that starts with text: alternatives, then the end. -/
def Scan.mixedModel (alphabet : Alphabet) : Scan Unit := do
  match ← declToken alphabet with
  | .closing none => return
  | .closing (some '*') => return
  | .sign '|' =>
    iterate (fun () => do
      let _ ← declRawName alphabet
      match ← declToken alphabet with
      | .sign '|' => return ((), true)
      | .closing (some '*') => return ((), false)
      | _ => failure) ()
  | _ => failure

/-- Where a content model stands: the connectors of the open groups, innermost first, and whether
an item comes next. -/
structure ModelState where
  groups : List (Option Char)
  item : Bool

/-- One step through a content model. A group has connectors of one kind only. -/
def Scan.modelStep (token : DeclToken) (state : ModelState) : Option (ModelState × Bool) :=
  match state.item, token, state.groups with
  | true, .opening, groups => some (⟨none :: groups, true⟩, true)
  | true, .name _, groups => some (⟨groups, false⟩, true)
  | true, .qualified _, groups => some (⟨groups, false⟩, true)
  | true, .marked, groups => some (⟨groups, false⟩, true)
  | false, .closing _, _ :: outer => some (⟨outer, false⟩, !outer.isEmpty)
  | false, .sign c, connector :: outer =>
    if (c = ',' || c = '|') && (connector.getD c = c) then some (⟨some c :: outer, true⟩, true)
    else none
  | _, _, _ => none

def Scan.elementDecl (alphabet : Alphabet) : Scan Unit := do
  let _ ← declRawName alphabet
  match ← declToken alphabet with
  | .name "EMPTY" => declEnd alphabet
  | .name "ANY" => declEnd alphabet
  | .opening =>
    match ← declToken alphabet with
    | .keyword "PCDATA" => mixedModel alphabet
    | token =>
      match modelStep token ⟨[none], true⟩ with
      | none => failure
      | some (state, _) =>
        let _ ← iterate (fun state => do
          match modelStep (← declToken alphabet) state with
          | some result => return result
          | none => failure) state
    declEnd alphabet
  | _ => failure

def Scan.alternatives (alphabet : Alphabet) (accepts : DeclToken → Bool) : Scan Unit :=
  iterate (fun () => do
    guard (accepts (← declToken alphabet))
    match ← declToken alphabet with
    | .sign '|' => return ((), true)
    | .closing none => return ((), false)
    | _ => failure) ()

def tokenTypes : List String :=
  ["ID", "IDREF", "IDREFS", "ENTITY", "ENTITIES", "NMTOKEN", "NMTOKENS"]

def isAlternative : DeclToken → Bool
  | .name _ => true
  | .qualified _ => true
  | .wordToken => true
  | _ => false

def isNotationName : DeclToken → Bool
  | .name _ => true
  | _ => false

def Scan.attributeType (alphabet : Alphabet) : Scan Bool := do
  match ← declToken alphabet with
  | .opening =>
    alternatives alphabet isAlternative
    return false
  | .name "CDATA" => return true
  | .name "NOTATION" =>
    expect alphabet .opening
    alternatives alphabet isNotationName
    return false
  | .name text =>
    guard (tokenTypes.contains text)
    return false
  | _ => failure

def Scan.defaultValue (alphabet : Alphabet) : Scan (Option (List Char)) := do
  match ← declToken alphabet with
  | .keyword "IMPLIED" => return none
  | .keyword "REQUIRED" => return none
  | .keyword "FIXED" => return some (← declLiteral alphabet)
  | .literal content => return some content
  | _ => failure

def Scan.attributeDecl (alphabet : Alphabet) (doctype : Doctype) : Scan Doctype := do
  let element ← declRawName alphabet
  iterate (fun doctype => do
    match ← declToken alphabet with
    | .sign '>' => return (doctype, false)
    | token =>
      let name ←
        match token with
        | .name text => pure ⟨none, text⟩
        | .qualified name => pure name
        | _ => failure
      let isPlain ← attributeType alphabet
      let literal ← defaultValue alphabet
      if doctype.isClosed then return (doctype, true)
      match literal with
      | none => return (doctype.addRule ⟨element, name, isPlain, none⟩, true)
      | some literal =>
        match (valuePieces alphabet (unifyLineEnds literal)).bind doctype.bounded.expand with
        | none => failure
        | some value =>
          let value := if isPlain then value else Doctype.collapse value
          return (doctype.addRule ⟨element, name, isPlain, some value⟩, true)) doctype

def Scan.subsetStep (alphabet : Alphabet) (doctype : Doctype) : Scan (Doctype × Bool) := do
  match ← declToken alphabet with
  | .endBracket => return (doctype, false)
  | .remark => return (doctype, true)
  | .parameterReference =>
    return ({ doctype with isPartial := true, isClosed := !doctype.standalone }, true)
  | .declaration "ENTITY" => return (← entityDecl alphabet doctype, true)
  | .declaration "ATTLIST" => return (← attributeDecl alphabet doctype, true)
  | .declaration "ELEMENT" =>
    elementDecl alphabet
    return (doctype, true)
  | .declaration "NOTATION" =>
    notationDecl alphabet
    return (doctype, true)
  | _ => failure

def Scan.subset (alphabet : Alphabet) (doctype : Doctype) (token : DeclToken) : Scan Doctype := do
  match token with
  | .sign '>' => return doctype
  | .sign '[' =>
    let doctype ← iterate (subsetStep alphabet) doctype
    declEnd alphabet
    return doctype
  | _ => failure

def Scan.doctype (alphabet : Alphabet) (standalone : Bool) : Scan Doctype := do
  let _ ← declRawName alphabet
  let doctype : Doctype := { standalone := standalone }
  match ← declToken alphabet with
  | .name keyword =>
    externalId alphabet keyword
    subset alphabet { doctype with isPartial := true } (← declToken alphabet)
  | token => subset alphabet doctype token

end ZigBindings.Markup
