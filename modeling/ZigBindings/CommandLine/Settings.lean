import ZigBindings.CommandLine.Option

/-!
# Settings

What the arguments ask for. Options and words may alternate, but the roots are the first run of
words, and words that come later are left over.
-/

namespace ZigBindings.CommandLine

structure Settings where
  roots : List String := []
  input : String := "."
  output : String := "generated"
  verbose : Bool := false
  deriving DecidableEq

inductive Request where
  | run (settings : Settings)
  | help
  | wrong (error : UsageError)
  deriving DecidableEq

/-- An option with its value, empty for one without. -/
abbrev Setting := Switch × String

/-- The options in one argument: short options without a value go on in it. The answer holds the
options, an unknown rest of the argument, and an option whose value is still to come. -/
def chain (option : Switch) (isShort : Bool) :
    List Char → Except UsageError (List Setting × Option String × Option Switch)
  | [] =>
    if option.hasValue then .ok ([], none, some option) else .ok ([(option, "")], none, none)
  | c :: rest =>
    let text := String.ofList (c :: rest)
    if option.hasValue then
      .ok ([(option, text)], none, none)
    else if !isShort || c = '-' then .error (.unwantedValue option text)
    else
      match spellings.lookup (String.ofList ['-', c]) with
      | none => .ok ([(option, "")], some ("-" ++ text), none)
      | some following =>
        match following.hasValue, rest with
        | true, '=' :: value => .ok ([(option, ""), (following, String.ofList value)], none, none)
        | false, '=' :: value => .error (.unwantedValue following (String.ofList value))
        | _, _ => do
          let (settings, left, waiting) ← chain following true rest
          return ((option, "") :: settings, left, waiting)

def settingsOf (option : Switch) (isShort : Bool) :
    Attached → Except UsageError (List Setting × Option String × Option Switch)
  | .nothing => chain option isShort []
  | .direct text => chain option isShort text
  | .value text =>
    if option.hasValue then .ok ([(option, String.ofList text)], none, none)
    else .error (.unwantedValue option (String.ofList text))

/-- What has been gathered from arguments: the settings, whether the roots have been met, and the
arguments left over. -/
structure Gathered where
  settings : Settings := {}
  hasRoots : Bool := false
  left : List String := []

namespace Gathered

/-- Takes up an option; the answer is whether the program is to show its help. -/
def take (gathered : Gathered) (setting : Setting) : Gathered :=
  let settings := gathered.settings
  match setting.1 with
  | .help => gathered
  | .input => { gathered with settings := { settings with input := setting.2 } }
  | .output => { gathered with settings := { settings with output := setting.2 } }
  | .verbose => { gathered with settings := { settings with verbose := true } }

def leave (gathered : Gathered) (arguments : List String) : Gathered :=
  { gathered with left := gathered.left ++ arguments }

def isPlain : Argument → Bool
  | .word _ => true
  | .mark => true
  | _ => false

def plainText : Argument → String
  | .word text => text
  | _ => "--"

/-- Takes up a run of words, which are the roots if there have been none. The first mark among
them is dropped. -/
def takeWords (gathered : Gathered) (run : List Argument) : Gathered :=
  let texts := run.map plainText
  if !gathered.hasRoots && run.any (· ≠ .mark) then
    { gathered with
      settings := { gathered.settings with roots := texts.erase "--" }
      hasRoots := true }
  else gathered.leave texts

/-- What is asked for once all arguments have been gathered. -/
def finish (gathered : Gathered) : Request :=
  if !gathered.hasRoots then .wrong .missingRoots
  else if gathered.left.isEmpty then .run gathered.settings
  else .wrong (.unrecognized gathered.left)

def gather (gathered : Gathered) : List Argument → Request
  | [] => gathered.finish
  | .unknown text :: rest => (gathered.leave [text]).gather rest
  | .option option isShort attached :: rest =>
    match settingsOf option isShort attached with
    | .error error => .wrong error
    | .ok (settings, left, waiting) =>
      let taken := (settings.foldl take gathered).leave left.toList
      match waiting, rest with
      | none, rest =>
        if settings.any (·.1 = .help) then .help else taken.gather rest
      | some waiting, .word text :: rest =>
        if settings.any (·.1 = .help) then .help else (taken.take (waiting, text)).gather rest
      | some waiting, _ => .wrong (.missingValue waiting)
  | first :: rest =>
    (gathered.takeWords (first :: rest.takeWhile isPlain)).gather (rest.dropWhile isPlain)
termination_by arguments => arguments.length
decreasing_by
  · simp only [List.length_cons]; omega
  · simp only [List.length_cons]; omega
  · simp only [List.length_cons]; omega
  · have := (List.dropWhile_suffix (l := rest) isPlain).length_le
    simp only [List.length_cons]; omega

end Gathered

def Request.ofArguments (arguments : List String) : Request :=
  match understandAll arguments with
  | .error error => .wrong error
  | .ok arguments => ({} : Gathered).gather arguments

end ZigBindings.CommandLine
