import ZigBindings.CommandLine.Program

/-!
# The executable

The only part that touches the files of the machine. It gathers the documents that a run can ask
for, runs the program on them, and puts what has changed back in place.
-/

open ZigBindings ZigBindings.CommandLine

namespace ZigBindings.Executable

def content? (path : Path) : IO (Option (List UInt8)) := do
  try
    return some (← IO.FS.readBinFile path.text).toList
  catch _ =>
    return none

def withFile (files : Files) (path : Path) (content : List UInt8) : Files :=
  match Files.store path content files with
  | .ok _ files => files
  | .error _ files => files

/-- The documents of the given names in a directory, and of all that they include. -/
partial def gather (directory : Path) (known names : List String) (files : Files) : IO Files := do
  match names with
  | [] => return files
  | name :: rest =>
    if known.contains name then gather directory known rest files
    else
      let path := directory.below name
      match ← content? path with
      | none => gather directory (name :: known) rest files
      | some content =>
        let sources := Run.sourcesOf (.file content)
        gather directory (name :: known) (sources ++ rest) (withFile files path content)

def spelling (location : Location) : String :=
  match location with
  | first :: rest =>
    if first.toList.all (· = '/') then first ++ String.intercalate "/" rest
    else String.intercalate "/" location
  | [] => "."

def place (old : Files) (location : Location) (entry : FileEntry) : IO Unit := do
  if old.entries.lookup location = some entry then return
  match entry with
  | .directory => IO.FS.createDirAll (spelling location)
  | .file content => IO.FS.writeBinFile (spelling location) ⟨content.toArray⟩

def milliseconds (nanoseconds : Nat) : String :=
  let hundredths := (nanoseconds + 5000) / 10000
  let places := toString (hundredths % 100)
  toString (hundredths / 100) ++ "." ++ (if places.length < 2 then "0" ++ places else places)

end ZigBindings.Executable

open ZigBindings.Executable

def main (arguments : List String) : IO UInt32 := do
  let start ← IO.monoNanosNow
  let files ←
    match Request.ofArguments arguments with
    | .run settings => gather (Path.ofString settings.input) [] settings.roots {}
    | _ => pure {}
  let (result, after) := CommandLine.run arguments files
  for (location, entry) in after.entries do
    place files location entry
  IO.eprint result.errors
  IO.print (result.output (milliseconds ((← IO.monoNanosNow) - start)))
  match result.ending, result.status? with
  | .stopped stop, _ =>
    IO.eprintln stop.text
    return 1
  | _, status => return (status.getD 1).toUInt32
