import ZigBindings.Markup.Character

/-!
# Scanning text

A scan reads a value off the front of a text and leaves the rest, or fails. Repetition is bounded
by the length of the text, since every turn of a useful repetition reads a character.
-/

namespace ZigBindings.Markup

abbrev Scan (α : Type) := StateT (List Char) Option α

namespace Scan

def peek : Scan Char := fun text =>
  match text with
  | c :: rest => some (c, c :: rest)
  | [] => none

def next : Scan Char := fun text =>
  match text with
  | c :: rest => some (c, rest)
  | [] => none

def guard (condition : Bool) : Scan Unit := fun text =>
  if condition then some ((), text) else none

def char (expected : Char) : Scan Unit := do
  guard ((← next) = expected)

def optional (expected : String) : Scan Bool := fun text =>
  if expected.toList.isPrefixOf text then some (true, text.drop expected.length)
  else some (false, text)

def exactly (expected : String) : Scan Unit := do
  guard (← optional expected)

def comes (expected : String) : Scan Bool := fun text =>
  some (expected.toList.isPrefixOf text, text)

def run (kind : Char → Bool) : Scan (List Char) := fun text =>
  some (text.span kind)

def spaces : Scan Unit := do
  let _ ← run isSpace

def space : Scan Unit := do
  guard (isSpace (← next))
  spaces

/-- The text up to the first occurrence of `stop`, which is read as well. -/
def untilText (stop : String) : Scan (List Char)
  | [] => none
  | c :: rest =>
    if stop.toList.isPrefixOf (c :: rest) then some ([], (c :: rest).drop stop.length)
    else
      match untilText stop rest with
      | some (before, after) => some (c :: before, after)
      | none => none

/-- The values read one after the other until the text ends, at most one for each character of
`bound`. -/
def allWithin {α : Type} (scan : Scan α) (bound : List Char) : List Char → Option (List α)
  | [] => some []
  | c :: rest =>
    match bound with
    | [] => none
    | _ :: bound => do
      let (value, rest) ← scan (c :: rest)
      let values ← allWithin scan bound rest
      return value :: values
termination_by structural bound

def all {α : Type} (scan : Scan α) (text : List Char) : Option (List α) :=
  allWithin scan text text

/-- Repeats a step on a state until the step says to stop, at most once for each character of
`bound`. -/
def iterateWithin {σ : Type} (step : σ → Scan (σ × Bool)) : List Char → σ → Scan σ
  | [], _ => failure
  | _ :: bound, state => do
    let (state, more) ← step state
    if more then iterateWithin step bound state else return state

/-- Repeats a step on a state until the step says to stop, which may be once more after the last
character. -/
def iterate {σ : Type} (step : σ → Scan (σ × Bool)) (state : σ) : Scan σ := do
  iterateWithin step (' ' :: (← get)) state

end Scan

end ZigBindings.Markup
