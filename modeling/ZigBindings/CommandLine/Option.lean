import ZigBindings.Text.CodePoint
import ZigBindings.Text.Quoted

/-!
# Options of the command line

The options that the program takes, and how an argument is understood: as a word, as the mark after
which everything is a word, or as an option. A long option may be shortened as long as it is clear
which one is meant, and may hold its value after an equals sign; a short option may be followed by
its value or by further short options in the same argument.
-/

namespace ZigBindings.CommandLine

open ZigBindings.Text

inductive Switch where
  | help
  | input
  | output
  | verbose
  deriving DecidableEq

def spellings : List (String × Switch) :=
  [
    ("-h", .help), ("--help", .help), ("--input-dir", .input), ("-i", .input),
    ("--output-dir", .output), ("-o", .output), ("--verbose", .verbose), ("-v", .verbose)
  ]

namespace Switch

def hasValue : Switch → Bool
  | .help => false
  | .input => true
  | .output => true
  | .verbose => false

def label (option : Switch) : String :=
  String.intercalate "/" ((spellings.filter fun entry => entry.2 = option).map (·.1))

end Switch

inductive UsageError where
  | ambiguous (argument : String) (candidates : List String)
  | unwantedValue (option : Switch) (value : String)
  | missingValue (option : Switch)
  | missingRoots
  | unrecognized (arguments : List String)
  deriving DecidableEq

def UsageError.text : UsageError → String
  | .ambiguous argument candidates =>
    "ambiguous option: " ++ argument ++ " could match " ++ String.intercalate ", " candidates
  | .unwantedValue option value =>
    "argument " ++ option.label ++ ": ignored explicit argument " ++ quoted value
  | .missingValue option => "argument " ++ option.label ++ ": expected one argument"
  | .missingRoots => "the following arguments are required: roots"
  | .unrecognized arguments => "unrecognized arguments: " ++ String.intercalate " " arguments

inductive Attached where
  /-- Nothing. -/
  | nothing
  /-- A text after an equals sign. -/
  | value (text : List Char)
  /-- A text that follows directly, and is not empty. -/
  | direct (text : List Char)
  deriving DecidableEq

inductive Argument where
  | word (text : String)
  | mark
  | option (option : Switch) (isShort : Bool) (attached : Attached)
  | unknown (text : String)
  deriving DecidableEq

/-- Whether a text is a negative number, which is a word. A line end may follow it. -/
def isNegativeNumber : List Char → Bool
  | '-' :: rest =>
    let isDigit := fun c => (digitValue? c).isSome
    let rest := if rest.getLast? = some '\n' then rest.dropLast else rest
    match rest.dropWhile isDigit with
    | [] => !rest.isEmpty
    | '.' :: fraction => !fraction.isEmpty && fraction.all isDigit
    | _ => false
  | _ => false

def splitValue (text : List Char) : List Char × Attached :=
  match text.span (· ≠ '=') with
  | (before, _ :: after) => (before, .value after)
  | (before, []) => (before, .nothing)

/-- Understands an argument that is not a word for want of a hyphen, and not an option as it
stands. -/
def understandOption (text : List Char) : Except UsageError Argument :=
  let (before, attached) := splitValue text
  let other : Argument :=
    if isNegativeNumber text || text.contains ' ' then .word (String.ofList text)
    else .unknown (String.ofList text)
  match attached, spellings.lookup (String.ofList before) with
  | .value _, some option => .ok (.option option (before.length = 2) attached)
  | _, _ =>
    match text with
    | '-' :: '-' :: _ =>
      match spellings.filter fun entry => before.isPrefixOf entry.1.toList with
      | [] => .ok other
      | [(_, option)] => .ok (.option option false attached)
      | candidates => .error (.ambiguous (String.ofList text) (candidates.map (·.1)))
    | '-' :: letter :: rest =>
      match spellings.lookup (String.ofList ['-', letter]) with
      | some option => .ok (.option option true (.direct rest))
      | none => .ok other
    | _ => .ok other

def understand (text : String) : Except UsageError Argument :=
  match spellings.lookup text with
  | some option => .ok (.option option (text.length = 2) .nothing)
  | none =>
    match text.toList with
    | '-' :: c :: rest => understandOption ('-' :: c :: rest)
    | _ => .ok (.word text)

def understandAll : List String → Except UsageError (List Argument)
  | [] => .ok []
  | "--" :: rest => .ok (.mark :: rest.map .word)
  | text :: rest => do
    let argument ← understand text
    return argument :: (← understandAll rest)

end ZigBindings.CommandLine
