import ZigBindings.Action
import ZigBindings.Repository.Declarations
import ZigBindings.Text.Case

/-!
# The include walk

A module is a file of its own, named after its namespace in lower case, and other modules import it
under a constant of the same name. It imports the modules of everything its repository includes,
directly or not. The walk goes through the includes depth first. A source that has been finished is
passed over, one that is still being walked closes a cycle, and any other is resolved once and
walked in its turn. Whatever happens, the stack of sources being walked is afterwards what it was
before.

How a source is resolved is a parameter, and so is the state that resolving works on.
-/

namespace ZigBindings

open ZigBindings.Text

def moduleFileName (name : String) : String :=
  lower (name ++ ".zig")

def importLine (name : String) : String :=
  "const " ++ lower name ++ " = @import(\"" ++ moduleFileName name ++ "\");"

/-- The state of a walk: the sources being walked, outermost first, those that have been finished,
the import lines so far, and the state that resolving works on. -/
structure Walk (σ : Type) where
  visiting : List String := []
  seen : List String := []
  lines : List String := []
  outer : σ

namespace Walk

abbrev Resolver (σ : Type) := String → Action σ (List Include)

variable {σ : Type}

def addLine (line : String) (walk : Walk σ) : Walk σ :=
  { walk with lines := walk.lines ++ [line] }

def enter (source : String) (walk : Walk σ) : Walk σ :=
  { walk with visiting := walk.visiting ++ [source] }

def leave (walk : Walk σ) : Walk σ :=
  { walk with visiting := walk.visiting.dropLast }

def finish (source : String) (walk : Walk σ) : Walk σ :=
  { walk with seen := walk.seen ++ [source] }

/-- The sources from the one that is met again, with that one at both ends. -/
def cycleTo (source : String) (walk : Walk σ) : List String :=
  walk.visiting.dropWhile (· ≠ source) ++ [source]

def resolveOuter (resolve : Resolver σ) (source : String) : Action (Walk σ) (List Include) :=
  (resolve source).onPart Walk.outer fun outer walk => { walk with outer }

def visit (resolve : Resolver σ) (descend : List Include → Action (Walk σ) Unit)
    (entry : Include) : Action (Walk σ) Unit := do
  let walk ← get
  if walk.seen.contains entry.source then
    return
  else if walk.visiting.contains entry.source then
    throw (.because (.cycle (walk.cycleTo entry.source)))
  else
    modify (addLine (importLine entry.name))
    let includes ← resolveOuter resolve entry.source
    (descend includes).between (enter entry.source) leave
    modify (finish entry.source)

def emitWithin (resolve : Resolver σ) : Nat → List Include → Action (Walk σ) Unit
  | 0, includes => if includes.isEmpty then pure () else throw .tooDeep
  | depth + 1, includes => includes.forM (visit resolve (emitWithin resolve depth))

/-- The namespace whose types another one uses without including it. -/
def impliedBy (name : String) : List String :=
  if name = "GLib" then ["GObject"] else []

def header (resolve : Resolver σ) (depth : Nat) (name : String) (includes : List Include) :
    Action (Walk σ) (List String) := do
  modify fun walk => { walk with seen := [], lines := [] }
  emitWithin resolve depth includes
  return (← get).lines ++ (impliedBy name).map importLine

def afresh {α : Type} (action : Action (Walk σ) α) : Action σ α := fun outer =>
  match action { outer } with
  | .ok value walk => .ok value walk.outer
  | .error stop walk => .error stop walk.outer

end Walk

end ZigBindings
