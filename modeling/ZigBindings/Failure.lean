import ZigBindings.Text.Numeral
import ZigBindings.Text.Quoted

/-!
# Failures

Why reading, looking up or writing did not succeed. A failure has a cause, which fixes its message
and its first details; what was being worked on is added to the details on the way out. The text of
a failure is the message with all details after it.
-/

namespace ZigBindings

open ZigBindings.Text

inductive Detail where
  | text (value : String)
  | number (value : Int)
  | flag (value : Bool)
  | absent
  | names (values : List String)
  deriving DecidableEq

def Detail.show : Detail → String
  | .text value => value
  | .number value => decimal value
  | .flag true => "True"
  | .flag false => "False"
  | .absent => "None"
  | .names values => quotedList values

abbrev Details := List (String × Detail)

def Details.set (details : Details) (name : String) (value : Detail) : Details :=
  if (details.lookup name).isSome then
    details.map fun entry => if entry.1 = name then (name, value) else entry
  else details ++ [(name, value)]

/-- Adds a detail unless there is one of this name. -/
def Details.setDefault (details : Details) (name : String) (value : Detail) : Details :=
  if (details.lookup name).isSome then details else details ++ [(name, value)]

def reportText (message : String) (details : Details) : String :=
  if details.isEmpty then message
  else
    message ++ " (" ++
      String.intercalate ", " (details.map fun (name, value) => name ++ "=" ++ value.show) ++ ")"

inductive FailureKind where
  /-- A failure of no particular kind. -/
  | general
  /-- A document that is not acceptable. -/
  | schema
  /-- A file that is missing or cannot be read or created. -/
  | files
  /-- Repositories that include each other. -/
  | cycle
  deriving DecidableEq

inductive Cause where
  | malformed (path : String)
  | wrongRoot (tag : String) (path : String)
  | missingAttribute (tag name : String) (path : String)
  | memberValue (member : Option String) (value : String) (path : String)
  | arraySize (value : String) (path : String)
  | unreadable (path reason : String)
  | unknownRepository (name directory path : String)
  | notCreated (path reason : String)
  | cycle (sources : List String)
  | reported (kind : FailureKind) (message : String) (details : Details)
  deriving DecidableEq

namespace Cause

def kind : Cause → FailureKind
  | .malformed .. => .schema
  | .wrongRoot .. => .schema
  | .missingAttribute .. => .schema
  | .memberValue .. => .schema
  | .arraySize .. => .schema
  | .unreadable .. => .files
  | .unknownRepository .. => .files
  | .notCreated .. => .files
  | .cycle _ => .cycle
  | .reported kind _ _ => kind

def message : Cause → String
  | .malformed _ => "Malformed GIR document"
  | .wrongRoot tag _ => "Expected <repository> root element, found <" ++ tag ++ ">"
  | .missingAttribute tag name _ =>
    "<" ++ tag ++ "> is missing required attribute '" ++ name ++ "'"
  | .memberValue member value _ =>
    "Member " ++ member.getD "None" ++ " has non-integer value " ++ quoted value
  | .arraySize value _ => "Invalid array size " ++ quoted value
  | .unreadable path reason => "Cannot read " ++ path ++ ": " ++ reason
  | .unknownRepository name directory _ =>
    "Repository " ++ name ++ " not found in " ++ directory
  | .notCreated path reason => "Cannot create " ++ path ++ ": " ++ reason
  | .cycle sources => "Cyclic repository dependency: " ++ String.intercalate " -> " sources
  | .reported _ message _ => message

def details : Cause → Details
  | .malformed path => [("path", .text path)]
  | .wrongRoot _ path => [("path", .text path)]
  | .missingAttribute _ _ path => [("path", .text path)]
  | .memberValue _ _ path => [("path", .text path)]
  | .arraySize _ path => [("path", .text path)]
  | .unreadable path _ => [("path", .text path)]
  | .unknownRepository _ _ path => [("path", .text path)]
  | .notCreated path _ => [("path", .text path)]
  | .cycle sources => [("cycle", .names sources)]
  | .reported _ _ details => details

end Cause

structure Failure where
  cause : Cause
  details : Details := cause.details
  deriving DecidableEq

namespace Failure

def text (failure : Failure) : String :=
  reportText failure.cause.message failure.details

/-- Says what was being worked on, unless that has been said. -/
def annotate (failure : Failure) (name value : String) : Failure :=
  { failure with details := failure.details.setDefault name (.text value) }

theorem annotate_cause (failure : Failure) (name value : String) :
    (failure.annotate name value).cause = failure.cause := rfl

end Failure

/-- What stops the work: a failure, or a condition that no one has given a meaning. -/
inductive Stop where
  | failed (failure : Failure)
  | emptySeparator
  | unknownEncoding (name : String)
  | nameTooLong (path : String)
  | pathExists (path : String)
  | notDirectory (path : String)
  | tooDeep
  deriving DecidableEq

def Stop.because (cause : Cause) : Stop :=
  .failed { cause }

def Stop.text : Stop → String
  | .failed reason => reason.text
  | .emptySeparator => "empty separator"
  | .unknownEncoding name => "unknown encoding: " ++ name
  | .nameTooLong path => "[Errno 36] File name too long: " ++ quoted path
  | .pathExists path => "[Errno 17] File exists: " ++ quoted path
  | .notDirectory path => "[Errno 20] Not a directory: " ++ quoted path
  | .tooDeep => "nesting too deep"

def Stop.annotate (stop : Stop) (name value : String) : Stop :=
  match stop with
  | .failed reason => .failed (reason.annotate name value)
  | other => other

end ZigBindings
