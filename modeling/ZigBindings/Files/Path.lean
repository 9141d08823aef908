/-!
# Paths

A path is a list of components below a starting point. Empty components and single dots do not
count; two dots are kept, since what they lead to depends on the files.
-/

namespace ZigBindings

/-- A path: the slashes it starts with, none if it starts from the current directory, and its
components. -/
structure Path where
  root : String := ""
  components : List String := []
  deriving DecidableEq

namespace Path

def parts : List Char → List (List Char)
  | [] => [[]]
  | c :: rest => if c = '/' then [] :: parts rest else (parts rest).modifyHead (c :: ·)

/-- The slashes that a path starts with: two are kept as they are, any other number counts as
one. -/
def rootOf (text : List Char) : String :=
  match (text.takeWhile (· = '/')).length with
  | 0 => ""
  | 2 => "//"
  | _ => "/"

def ofString (text : String) : Path :=
  let components := (parts text.toList).filter fun part => part ≠ [] && part ≠ ['.']
  ⟨rootOf text.toList, components.map String.ofList⟩

def text (path : Path) : String :=
  if path.root = "" && path.components.isEmpty then "."
  else path.root ++ String.intercalate "/" path.components

def append (directory path : Path) : Path :=
  if path.root = "" then ⟨directory.root, directory.components ++ path.components⟩ else path

def below (directory : Path) (text : String) : Path :=
  directory.append (ofString text)

end Path

end ZigBindings
