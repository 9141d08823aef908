import ZigBindings.Text.Case

/-!
# Words of a name

A name is a sequence of words with a separator between them. In camel case the separators go and
every word but the first is capitalized; in Pascal case the first is capitalized as well.
-/

namespace ZigBindings.Text

/-- Cuts a text at the occurrences of `separator` that do not overlap, from the left. The first
argument counts the characters of an occurrence that are still to be passed over. -/
def piecesAfter (separator : List Char) : Nat → List Char → List (List Char)
  | _, [] => [[]]
  | skip + 1, _ :: rest => piecesAfter separator skip rest
  | 0, c :: rest =>
    if separator.isPrefixOf (c :: rest) then
      [] :: piecesAfter separator (separator.length - 1) rest
    else
      (piecesAfter separator 0 rest).modifyHead (c :: ·)

/-- The words of a text, in order; two separators side by side have an empty word between them. -/
def pieces (separator text : List Char) : List (List Char) :=
  piecesAfter separator 0 text

/-- Joins words, each but the first capitalized. -/
def joinCapitalized : List (List Char) → List Char
  | [] => []
  | word :: words => word ++ words.flatMap capitalize

def camelCase (separator name : List Char) : List Char :=
  joinCapitalized (pieces separator name)

def pascalCase (separator name : List Char) : List Char :=
  capitalize (camelCase separator name)

theorem pieces_nil (separator : List Char) : pieces separator [] = [[]] := by
  cases separator <;> rfl

end ZigBindings.Text
