import ZigBindings.Action
import ZigBindings.Files.Path
import ZigBindings.Text.Bytes

/-!
# Files

A tree of files and directories, given by what is at each location. A location is a path without
detours: two dots occur at its start only, where they lead out of the current directory.

Paths are followed component by component, so that two dots lead to the parent of the directory
that has been reached.
-/

namespace ZigBindings

abbrev Location := List String

inductive FileEntry where
  | directory
  | file (content : List UInt8)
  deriving DecidableEq

inductive FileProblem where
  | missing
  | exists
  | notDirectory
  | isDirectory
  | nameTooLong
  deriving DecidableEq

def FileProblem.reason : FileProblem → String
  | .missing => "No such file or directory"
  | .exists => "File exists"
  | .notDirectory => "Not a directory"
  | .isDirectory => "Is a directory"
  | .nameTooLong => "File name too long"

/-- What is at each location. Roots, the current directory and what it lies in need no entry. -/
structure Files where
  entries : List (Location × FileEntry) := []

namespace Files

/-- The most bytes that a component of a path may have. -/
def nameLimit : Nat := 255

/-- The number of bytes that a path may not reach. -/
def pathLimit : Nat := 4096

def isOutward (location : Location) : Bool :=
  location.all (· = "..")

def isRoot (location : Location) : Bool :=
  location = ["/"] || location = ["//"]

def at? (files : Files) (location : Location) : Option FileEntry :=
  if isOutward location || isRoot location then some .directory
  else files.entries.lookup location

def put (files : Files) (location : Location) (entry : FileEntry) : Files :=
  if (files.entries.lookup location).isSome then
    ⟨files.entries.map fun old => if old.1 = location then (location, entry) else old⟩
  else ⟨files.entries ++ [(location, entry)]⟩

/-- The location of the directory in which a location lies; a root lies in itself. -/
def parent (location : Location) : Location :=
  if isOutward location then location ++ [".."]
  else if isRoot location then location
  else location.dropLast

/-- The location that components lead to from a location. Whether anything is there is another
question, but what is passed on the way has to be a directory. -/
def follow (files : Files) : Location → List String → Except FileProblem Location
  | location, [] => .ok location
  | location, component :: rest =>
    match files.at? location with
    | none => .error .missing
    | some (.file _) => .error .notDirectory
    | some .directory =>
      if nameLimit < component.utf8ByteSize then .error .nameTooLong
      else if component = ".." then files.follow (parent location) rest
      else files.follow (location ++ [component]) rest

/-- The location that a path leads to. Paths with a root lead away from the files of the tree. -/
def locate (files : Files) (path : Path) : Except FileProblem Location :=
  if pathLimit ≤ path.text.utf8ByteSize then .error .nameTooLong
  else if path.root = "" then files.follow [] path.components
  else files.follow [path.root] path.components

def find (files : Files) (path : Path) : Except FileProblem FileEntry := do
  match files.at? (← files.locate path) with
  | some entry => return entry
  | none => throw .missing

def read (files : Files) (path : Path) : Except FileProblem (List UInt8) := do
  match ← files.find path with
  | .file content => return content
  | .directory => throw .isDirectory

def isFile (files : Files) (path : Path) : Except FileProblem Bool :=
  match files.find path with
  | .ok (.file _) => .ok true
  | .ok .directory => .ok false
  | .error .nameTooLong => .error .nameTooLong
  | .error _ => .ok false

def create (files : Files) (path : Path) : Except FileProblem Files := do
  let location ← files.locate path
  match files.at? location with
  | some .directory => throw .isDirectory
  | _ => return files.put location (.file [])

def overlay (content old : List UInt8) : List UInt8 :=
  content ++ old.drop content.length

def writeOver (files : Files) (path : Path) (content : List UInt8) : Files :=
  match files.locate path with
  | .error _ => files
  | .ok location =>
    match files.at? location with
    | some (.file old) => files.put location (.file (overlay content old))
    | _ => files

def makeDirectory (files : Files) (path : Path) : Except FileProblem Files := do
  let location ← files.locate path
  match files.at? location with
  | some _ => throw .exists
  | none => return files.put location .directory

def isDirectory (files : Files) (path : Path) : Bool :=
  match files.find path with
  | .ok .directory => true
  | _ => false

def directoryStop (path : Path) : FileProblem → Stop
  | .exists => .pathExists path.text
  | .notDirectory => .notDirectory path.text
  | _ => .nameTooLong path.text

def ensureOne (path : Path) : Action Files Unit := do
  match (← get).makeDirectory path with
  | .ok files => set files
  | .error problem =>
    if (← get).isDirectory path then return else throw (directoryStop path problem)

/-- Makes the directory of the given components, the last first, and those it lies in. -/
def ensureWithin (root : String) : List String → Action Files Unit
  | [] => ensureOne ⟨root, []⟩
  | component :: outer => do
    let path : Path := ⟨root, outer.reverse ++ [component]⟩
    match (← get).makeDirectory path with
    | .error .missing =>
      ensureWithin root outer
      ensureOne path
    | _ => ensureOne path

def ensureDirectory (path : Path) : Action Files Unit :=
  ensureWithin path.root path.components.reverse

def store (path : Path) (content : List UInt8) : Action Files Unit := do
  ensureDirectory ⟨path.root, path.components.dropLast⟩
  match (← get).create path with
  | .ok files => set (files.writeOver path content)
  | .error problem => throw (.because (.notCreated path.text problem.reason))

def remove (files : Files) (location : Location) : Files :=
  ⟨files.entries.filter fun entry => !location.isPrefixOf entry.1⟩

/-- Whether one location comes before another: by components, each in code point order. -/
def precedes (first second : Location) : Bool :=
  first.lex second fun one other =>
    one.toList.lex other.toList fun left right => left.toNat < right.toNat

/-- What is below a location, in the order of the components of the locations. -/
def listing (files : Files) (location : Location) : List (Location × FileEntry) :=
  (files.entries.filter fun entry => location.isPrefixOf entry.1 && entry.1 ≠ location).mergeSort
    fun first second => !precedes second.1 first.1

end Files

end ZigBindings
