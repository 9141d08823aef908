import ZigBindings.Markup.Token

/-!
# Tokens of declarations

The declarations before the root of a document are written in tokens of their own: names, texts
between quotes, signs and references. What may follow a token without a blank depends on the token.
-/

namespace ZigBindings.Markup

inductive DeclToken where
  | name (text : String)
  | qualified (name : RawName)
  | wordToken
  | marked
  | literal (content : List Char)
  | percent
  | parameterReference
  | keyword (text : String)
  | opening
  | closing (mark : Option Char)
  | sign (c : Char)
  | endBracket
  | declaration (keyword : String)
  | remark
  deriving DecidableEq

namespace Scan

/-- Goes on only if the next character is a blank or one of the given ones. -/
def followedBy (stops : List Char) : Scan Unit := do
  let c ← peek
  guard (isSpace c || stops.contains c)

/-- Splits a run of name characters and colons: a name, a qualified name, or neither. -/
def classifyRun (alphabet : Alphabet) (text : List Char) : DeclToken :=
  if (text.head?.map alphabet.isNameStart).getD false then
    match text.span (· ≠ ':') with
    | (_, []) => .name (String.ofList text)
    | (first, _ :: second) =>
      if second.isEmpty || second.contains ':' then .wordToken
      else .qualified ⟨some (String.ofList first), String.ofList second⟩
  else .wordToken

/-- A name, a qualified name or another word, perhaps with a mark of repetition. -/
def declWord (alphabet : Alphabet) : Scan DeclToken := do
  let text ← run fun c => alphabet.isNameChar c || c = ':'
  guard (!text.isEmpty)
  let word := classifyRun alphabet text
  if (← optional "+") || (← optional "*") || (← optional "?") then
    guard (word ≠ .wordToken)
    return .marked
  else
    followedBy ['>', ')', ',', '|', '[', '%']
    return word

def declToken (alphabet : Alphabet) : Scan DeclToken := do
  spaces
  let c ← peek
  if c = '"' || c = '\'' then
    let content ← quotedText
    followedBy ['>', '%', '[']
    return .literal content
  else if ← optional "<!--" then
    comment
    return .remark
  else if ← optional "<!" then
    let keyword ← run fun c => c.isAlpha || c = '_'
    guard (!keyword.isEmpty)
    followedBy []
    return .declaration (String.ofList keyword)
  else if ← optional "<?" then
    instruction alphabet
    return .remark
  else if ← optional "%" then
    let c ← peek
    if isSpace c || c = '%' then return .percent
    else
      let _ ← name alphabet
      char ';'
      return .parameterReference
  else if ← optional "#" then
    let keyword ← name alphabet
    followedBy [')', '>', '%', '|']
    return .keyword keyword
  else if ← optional "(" then return .opening
  else if ← optional ")" then
    let c ← peek
    if c = '*' || c = '?' || c = '+' then
      let _ ← next
      return .closing (some c)
    else
      followedBy ['>', ',', '|', ')']
      return .closing none
  else if c = ',' || c = '|' || c = '[' || c = '>' then return .sign (← next)
  else if ← optional "]" then
    guard (!(← comes "]>"))
    return .endBracket
  else declWord alphabet

def expect (alphabet : Alphabet) (expected : DeclToken) : Scan Unit := do
  guard ((← declToken alphabet) = expected)

def declEnd (alphabet : Alphabet) : Scan Unit :=
  expect alphabet (.sign '>')

def declName (alphabet : Alphabet) : Scan String := do
  match ← declToken alphabet with
  | .name text => return text
  | _ => failure

def declRawName (alphabet : Alphabet) : Scan RawName := do
  match ← declToken alphabet with
  | .name text => return ⟨none, text⟩
  | .qualified name => return name
  | _ => failure

def declLiteral (alphabet : Alphabet) : Scan (List Char) := do
  match ← declToken alphabet with
  | .literal content => return content
  | _ => failure

def isPublicChar (c : Char) : Bool :=
  c.isAlphanum || c = ' ' || c = '\r' || c = '\n' || "-'()+,./:=?;!*#@$_%".toList.contains c

def publicId (alphabet : Alphabet) : Scan Unit := do
  guard ((← declLiteral alphabet).all isPublicChar)

end Scan

end ZigBindings.Markup
