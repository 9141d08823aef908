import ZigBindings.Markup.Scan

/-!
# Tokens of content

The content of a document is a sequence of tags, references, text and remarks. This module reads
them one by one; whether tags match, and what references stand for, is decided later.
-/

namespace ZigBindings.Markup

/-- A name as it is written: the abbreviation of its name space, if any, and the name itself. -/
structure RawName where
  qualifier : Option String
  base : String
  deriving DecidableEq

inductive Piece where
  | char (c : Char)
  | entity (name : String)
  deriving DecidableEq

inductive Token where
  | opening (name : RawName) (attributes : List (RawName × List Piece)) (closed : Bool)
  | closing (name : RawName)
  | data (content : List Char)
  | verbatim (content : List Char)
  | entity (name : String)
  | remark

def predefinedEntities : List (String × Char) :=
  [("lt", '<'), ("gt", '>'), ("amp", '&'), ("apos", '\''), ("quot", '"')]

def digitIn? (base : Nat) (c : Char) : Option Nat :=
  let value :=
    if c.isDigit then c.toNat - '0'.toNat
    else if 'a' ≤ c && c ≤ 'f' then c.toNat - 'a'.toNat + 10
    else if 'A' ≤ c && c ≤ 'F' then c.toNat - 'A'.toNat + 10
    else base
  if value < base then some value else none

/-- The character that a number in a reference stands for; a document may hold it. -/
def charOfDigits? (base : Nat) (digits : List Char) : Option Char := do
  let values ← digits.mapM (digitIn? base)
  if values.isEmpty then none
  else
    let code := values.foldl (fun code value => min (base * code + value) 0x110000) 0
    if isLegalCode code then some (Char.ofNat code) else none

namespace Scan

def name (alphabet : Alphabet) : Scan String := do
  guard (alphabet.isNameStart (← peek))
  return String.ofList (← run alphabet.isNameChar)

def rawName (alphabet : Alphabet) : Scan RawName := do
  let first ← name alphabet
  if ← optional ":" then
    return ⟨some first, ← name alphabet⟩
  else
    return ⟨none, first⟩

def reference (alphabet : Alphabet) : Scan Piece := do
  if ← optional "#" then
    let base := if ← optional "x" then 16 else 10
    let digits ← run fun c => (digitIn? base c).isSome
    char ';'
    match charOfDigits? base digits with
    | some c => return .char c
    | none => failure
  else
    let entity ← name alphabet
    char ';'
    match predefinedEntities.lookup entity with
    | some c => return .char c
    | none => return .entity entity

def valuePiece (alphabet : Alphabet) : Scan Piece := do
  let c ← next
  if c = '<' then failure
  else if c = '&' then reference alphabet
  else if isSpace c then return .char ' '
  else return .char c

def valuePieces (alphabet : Alphabet) (text : List Char) : Option (List Piece) :=
  all (valuePiece alphabet) text

def quotedText : Scan (List Char) := do
  let quote ← next
  if quote = '"' then untilText "\""
  else if quote = '\'' then untilText "'"
  else failure

/-- A text with every line end written as one line feed. This holds of what stands in the document
itself; a carriage return that a reference has put into an entity is a blank of its own. -/
def unifyLineEnds : List Char → List Char
  | [] => []
  | '\r' :: '\n' :: rest => '\n' :: unifyLineEnds rest
  | '\r' :: rest => '\n' :: unifyLineEnds rest
  | c :: rest => c :: unifyLineEnds rest

def tagAttribute (alphabet : Alphabet) : Scan (RawName × List Piece) := do
  let name ← rawName alphabet
  spaces
  char '='
  spaces
  match valuePieces alphabet (unifyLineEnds (← quotedText)) with
  | some value => return (name, value)
  | none => failure

/-- The attributes of a tag up to its end, and whether the tag closes its element at once. -/
def tagEnd (alphabet : Alphabet) : Scan (List (RawName × List Piece) × Bool) :=
  iterate (fun (attributes, _) => do
    if ← optional ">" then return ((attributes, false), false)
    else if ← optional "/>" then return ((attributes, true), false)
    else
      space
      if (← comes ">") || (← comes "/>") then return ((attributes, false), true)
      else return ((attributes ++ [← tagAttribute alphabet], false), true)) ([], false)

/-- A processing instruction, after its opening; only a document's first line may be called
`xml`. -/
def instruction (alphabet : Alphabet) : Scan Unit := do
  let target ← name alphabet
  guard (target.map Char.toLower ≠ "xml")
  if ← optional "?>" then return
  space
  let _ ← untilText "?>"

def comment : Scan Unit := do
  let _ ← untilText "--"
  char '>'

def closesVerbatim : List Char → Bool
  | [] => false
  | c :: rest => [']', ']', '>'].isPrefixOf (c :: rest) || closesVerbatim rest

def token (alphabet : Alphabet) : Scan Token := do
  if ← optional "<!--" then
    comment
    return .remark
  else if ← optional "<![CDATA[" then return .verbatim (← untilText "]]>")
  else if ← optional "<?" then
    instruction alphabet
    return .remark
  else if ← optional "</" then
    let name ← rawName alphabet
    spaces
    char '>'
    return .closing name
  else if ← optional "<" then
    let name ← rawName alphabet
    let (attributes, closed) ← tagEnd alphabet
    return .opening name attributes closed
  else if ← optional "&" then
    match ← reference alphabet with
    | .char c => return .verbatim [c]
    | .entity name => return .entity name
  else
    let content ← run fun c => c ≠ '<' && c ≠ '&'
    guard (!closesVerbatim content)
    return .data content

end Scan

def tokens (alphabet : Alphabet) (content : List Char) : Option (List Token) :=
  Scan.all (Scan.token alphabet) content

end ZigBindings.Markup
