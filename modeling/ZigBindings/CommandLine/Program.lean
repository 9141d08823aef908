import ZigBindings.CommandLine.Settings
import ZigBindings.Generation.Generator

/-!
# The program

A run of the program from its arguments: what it shows, how it ends, and what it does to the files.
-/

namespace ZigBindings.CommandLine

def usage : String :=
  "usage: girgen [-h] [--input-dir INPUT_DIR] [--output-dir OUTPUT_DIR]\n" ++
  "              [--verbose]\n" ++
  "              roots [roots ...]\n"

def helpText : String :=
  usage ++
  "\nGenerate Zig bindings from GObject Introspection repositories\n\n" ++
  "positional arguments:\n" ++
  "  roots                 Repository files to translate (e.g. Gtk-4.0.gir)\n\n" ++
  "options:\n" ++
  "  -h, --help            show this help message and exit\n" ++
  "  --input-dir INPUT_DIR, -i INPUT_DIR\n" ++
  "                        Directory containing .gir files\n" ++
  "  --output-dir OUTPUT_DIR, -o OUTPUT_DIR\n" ++
  "                        Output directory\n" ++
  "  --verbose, -v         Increase log verbosity\n"

inductive Ending where
  | help
  | usageError (error : UsageError)
  | generated (paths : List Path)
  | failed (failure : Failure)
  | stopped (stop : Stop)
  deriving DecidableEq

/-- What has come of a run: how it ended and what was logged for the one who started it. -/
structure Result where
  ending : Ending
  log : List LogRecord := []

namespace Result

def status? (result : Result) : Option Nat :=
  match result.ending with
  | .help => some 0
  | .usageError _ => some 2
  | .generated _ => some 0
  | .failed _ => some 1
  | .stopped _ => none

def output (result : Result) (elapsed : String) : String :=
  match result.ending with
  | .help => helpText
  | .generated paths =>
    String.join (paths.map fun path => "Generated: " ++ path.text ++ "\n") ++
      "Generation completed in " ++ elapsed ++ " ms\n"
  | _ => ""

def errors (result : Result) : String :=
  String.join (result.log.map fun record => record.consoleText ++ "\n") ++
    match result.ending with
    | .usageError error => usage ++ programName ++ ": error: " ++ error.text ++ "\n"
    | .failed failure => programName ++ ": " ++ failure.text ++ "\n"
    | _ => ""

end Result

def isShown (verbose : Bool) (record : LogRecord) : Bool :=
  verbose || record.level = .info

def generate (settings : Settings) (files : Files) : Result × Files :=
  let output := Path.ofString settings.output
  match Files.ensureDirectory output files with
  | .error stop files => ({ ending := .stopped stop }, files)
  | .ok () files =>
    let generator : Generator := ⟨Path.ofString settings.input, output⟩
    let shown (run : Generation) := run.log.filter (isShown settings.verbose)
    match generator.generate settings.roots { files, extra := [] } with
    | .ok paths run => ({ ending := .generated paths, log := shown run }, run.files)
    | .error (.failed failure) run => ({ ending := .failed failure, log := shown run }, run.files)
    | .error stop run => ({ ending := .stopped stop, log := shown run }, run.files)

def run (arguments : List String) (files : Files) : Result × Files :=
  match Request.ofArguments arguments with
  | .help => ({ ending := .help }, files)
  | .wrong error => ({ ending := .usageError error }, files)
  | .run settings => generate settings files

end ZigBindings.CommandLine
