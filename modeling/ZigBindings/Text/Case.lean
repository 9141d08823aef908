import ZigBindings.Text.CaseTable

/-!
# Upper and lower case

The full Unicode case mappings. A character may become several, and the lower case of the Greek
capital sigma depends on its place: at the end of a word it is the final sigma.
-/

namespace ZigBindings.Text

/-- Maps one character by the listed mappings first and by the runs second. -/
def mapCase (specials : List (Nat × List Nat)) (runs : List CaseRun) (c : Char) : List Char :=
  match specials.find? fun entry => entry.1 == c.toNat with
  | some (_, codes) => codes.map Char.ofNat
  | none =>
    match runs.find? fun run => run.covers c.toNat with
    | some run => [Char.ofNat (c.toNat + run.shift).toNat]
    | none => [c]

def upperChar (c : Char) : List Char :=
  mapCase upperSpecials upperRuns c

def lowerChar (c : Char) : List Char :=
  mapCase lowerSpecials lowerRuns c

/-- Whether a character has a case and counts when the end of a word is looked for. -/
def isCased (c : Char) : Bool :=
  inRanges casedRanges c.toNat

/-- Whether a character is passed over when the end of a word is looked for. -/
def isIgnorable (c : Char) : Bool :=
  inRanges ignorableRanges c.toNat

/-- Whether the first character that counts is a cased one. -/
def startsCased : List Char → Bool
  | [] => false
  | c :: rest => if isIgnorable c then startsCased rest else isCased c

/-- The capital sigma, the only character whose lower case depends on its neighbours. -/
def capitalSigma : Char := 'Σ'

def lowerAt (before : List Char) (c : Char) (after : List Char) : List Char :=
  if c = capitalSigma then
    if startsCased before && !startsCased after then ['ς'] else ['σ']
  else
    lowerChar c

/-- The lower case of a text that follows `before`, which is read backwards. -/
def lowerAfter (before : List Char) : List Char → List Char
  | [] => []
  | c :: rest => lowerAt before c rest ++ lowerAfter (c :: before) rest

def lower (text : String) : String :=
  String.ofList (lowerAfter [] text.toList)

def capitalize : List Char → List Char
  | [] => []
  | c :: rest => upperChar c ++ rest

end ZigBindings.Text
