import Mathlib.Data.List.Basic
import ZigBindings.Zig.Module

/-!
# Callables that have moved

A callable that has moved is declared elsewhere and has no lines here. It still counts where a group
of callables is closed by a blank line or begun by one, and nowhere else: without it a module loses
some of its blank lines.
-/

namespace ZigBindings

def kept (callables : List Callable) : List Callable :=
  callables.filter (·.movedTo.isNone)

def Class.settled (type : Class) : Class :=
  { type with
    functions := kept type.functions
    constructors := kept type.constructors
    methods := kept type.methods }

def Interface.settled (type : Interface) : Interface :=
  { type with
    functions := kept type.functions
    constructors := kept type.constructors
    methods := kept type.methods }

def Compound.settled (type : Compound) : Compound :=
  { type with
    functions := kept type.functions
    constructors := kept type.constructors
    methods := kept type.methods }

def Enumeration.settled (type : Enumeration) : Enumeration :=
  { type with functions := kept type.functions }

/-- The namespace without the callables that have moved, at whatever place they stand. -/
def Namespace.settled (space : Namespace) : Namespace :=
  { space with
    classes := space.classes.map Class.settled
    interfaces := space.interfaces.map Interface.settled
    records := space.records.map Compound.settled
    unions := space.unions.map Compound.settled
    enumerations := space.enumerations.map Enumeration.settled
    bitFields := space.bitFields.map Enumeration.settled
    functions := kept space.functions }

def inked (lines : List String) : List String :=
  lines.filter (· ≠ "")

/-- Whether lines are what is left of others when some of their blank lines are taken out. -/
structure Thins (lines fewer : List String) : Prop where
  sublist : fewer.Sublist lines
  same : inked fewer = inked lines

section Thins

variable {lines fewer others less : List String}

theorem thins_refl (lines : List String) : Thins lines lines :=
  ⟨List.Sublist.refl lines, rfl⟩

theorem thins_blank : Thins [""] [] :=
  ⟨List.nil_sublist _, rfl⟩

theorem Thins.append (first : Thins lines fewer) (second : Thins others less) :
    Thins (lines ++ others) (fewer ++ less) := by
  refine ⟨first.sublist.append second.sublist, ?_⟩
  unfold inked
  rw [List.filter_append, List.filter_append]
  exact congrArg₂ (· ++ ·) first.same second.same

theorem thins_flat_map {α : Type} {text : α → List String} {change : α → α} (items : List α)
    (each : ∀ item, Thins (text item) (text (change item))) :
    Thins (items.flatMap text) ((items.map change).flatMap text) := by
  induction items with
  | nil => exact thins_refl []
  | cons item rest ih =>
      rw [List.map_cons, List.flatMap_cons, List.flatMap_cons]
      exact (each item).append ih

theorem Thins.mem_iff (thins : Thins lines fewer) {line : String} (ink : line ≠ "") :
    line ∈ fewer ↔ line ∈ lines := by
  have listed := congrArg (line ∈ ·) thins.same
  simpa [inked, ink] using listed

end Thins

section Callables

variable {current : String} {depth : Nat}

theorem flat_map_kept {text : Callable → List String} (callables : List Callable)
    (silent : ∀ callable, callable.movedTo.isSome → text callable = []) :
    (kept callables).flatMap text = callables.flatMap text := by
  induction callables with
  | nil => rfl
  | cons callable rest ih =>
      cases moved : callable.movedTo.isSome with
      | true =>
          have gone : kept (callable :: rest) = kept rest :=
            List.filter_cons_of_neg (by simp [Option.isSome_iff_ne_none.mp moved])
          rw [gone, ih, List.flatMap_cons, silent callable moved, List.nil_append]
      | false =>
          have stays : kept (callable :: rest) = callable :: kept rest :=
            List.filter_cons_of_pos (by simpa using moved)
          rw [stays, List.flatMap_cons, List.flatMap_cons, ih]

theorem function_lines_of_moved (callable : Callable) (moved : callable.movedTo.isSome) :
    callable.functionLines current depth = [] :=
  if_pos moved

theorem constructor_lines_of_moved (callable : Callable) (moved : callable.movedTo.isSome) :
    callable.constructorLines current depth = [] :=
  if_pos moved

theorem functions_kept (callables : List Callable) :
    (kept callables).flatMap (·.functionLines current depth) =
      callables.flatMap (·.functionLines current depth) :=
  flat_map_kept callables function_lines_of_moved

/-- A group loses its blank line if all of its callables have moved. -/
theorem group_thins {text : Callable → List String} (callables : List Callable)
    (silent : ∀ callable, callable.movedTo.isSome → text callable = []) :
    Thins (group text callables) (group text (kept callables)) := by
  unfold group
  rw [flat_map_kept callables silent]
  refine (thins_refl _).append ?_
  cases callables with
  | nil => exact thins_refl []
  | cons callable rest =>
      cases (kept (callable :: rest)).isEmpty with
      | true => exact thins_blank
      | false => exact thins_refl [""]

theorem functions_thin (callables : List Callable) :
    Thins (group (·.functionLines current depth) callables)
      (group (·.functionLines current depth) (kept callables)) :=
  group_thins callables function_lines_of_moved

theorem constructors_thin (callables : List Callable) :
    Thins (group (·.constructorLines current depth) callables)
      (group (·.constructorLines current depth) (kept callables)) :=
  group_thins callables constructor_lines_of_moved

theorem attached_thin (callables : List Callable) :
    Thins (attachedFunctions callables current) (attachedFunctions (kept callables) current) := by
  unfold attachedFunctions
  rw [functions_kept]
  cases callables with
  | nil => exact thins_refl []
  | cons callable rest =>
      cases empty : (kept (callable :: rest)).isEmpty with
      | false => exact thins_refl _
      | true =>
          have silent := @functions_kept current 2 (callable :: rest)
          rw [List.isEmpty_iff.mp empty, List.flatMap_nil] at silent
          rw [← silent]
          exact thins_blank

end Callables

section Types

variable (current : String)

theorem class_thins (type : Class) : Thins (type.lines current) (type.settled.lines current) := by
  unfold Class.lines Class.settled
  dsimp only
  -- The body of the mixin is the same, and so is its place in the lines.
  rw [functions_kept]
  exact (((((((thins_refl _).append (functions_thin type.functions)).append
    (constructors_thin type.constructors)).append (thins_refl _)).append
    (thins_refl _)).append (thins_refl _)).append (thins_refl _))

theorem interface_thins (type : Interface) :
    Thins (type.lines current) (type.settled.lines current) := by
  unfold Interface.lines Interface.settled
  dsimp only
  rw [functions_kept]
  exact ((((((thins_refl _).append (functions_thin type.functions)).append
    (constructors_thin type.constructors)).append (thins_refl _)).append
    (thins_refl _)).append (thins_refl _)).append (thins_refl _)

theorem compound_thins (kind : String) (type : Compound) :
    Thins (type.lines kind current) (type.settled.lines kind current) := by
  unfold Compound.lines Compound.settled
  dsimp only
  rw [functions_kept]
  exact ((((thins_refl _).append (functions_thin type.functions)).append
    (constructors_thin type.constructors)).append (thins_refl _)).append (thins_refl _)

theorem tail_thins (type : Enumeration) :
    Thins (type.tail current) (type.settled.tail current) :=
  ((thins_refl _).append (attached_thin type.functions)).append (thins_refl _)

theorem enumeration_thins (type : Enumeration) :
    Thins (type.lines current) (type.settled.lines current) :=
  (thins_refl _).append (tail_thins current type)

theorem flags_thin (type : Enumeration) :
    Thins (type.flagLines current) (type.settled.flagLines current) :=
  (thins_refl _).append (tail_thins current type)

end Types

theorem namespace_thins (space : Namespace) : Thins space.lines space.settled.lines := by
  unfold Namespace.lines Namespace.settled
  dsimp only
  rw [functions_kept]
  exact (((((((((thins_refl _).append
    (thins_flat_map space.classes (class_thins space.name))).append
    (thins_flat_map space.interfaces (interface_thins space.name))).append
    (thins_flat_map space.records (compound_thins space.name "extern struct"))).append
    (thins_flat_map space.unions (compound_thins space.name "extern union"))).append
    (thins_flat_map space.enumerations (enumeration_thins space.name))).append
    (thins_flat_map space.bitFields (flags_thin space.name))).append (thins_refl _)).append
    (thins_refl _)).append (thins_refl _)

/-- The callables that have moved leave nothing but blank lines: without them, at all places of a
namespace, some blank lines of its module are gone and all other lines are there in the same order.
A class or interface says in its mixin that the type is not used either with them and without them
or not at all. -/
theorem moved_leave_blank_lines (space : Namespace) :
    inked space.settled.lines = inked space.lines ∧
    space.settled.lines.Sublist space.lines ∧
    (∀ type : Class,
      "_ = Self;" ∈ type.settled.lines space.name ↔ "_ = Self;" ∈ type.lines space.name) ∧
    ∀ type : Interface,
      "_ = Self;" ∈ type.settled.lines space.name ↔ "_ = Self;" ∈ type.lines space.name := by
  have whole := namespace_thins space
  refine ⟨whole.same, whole.sublist, fun type => ?_, fun type => ?_⟩
  · exact (class_thins space.name type).mem_iff (by decide)
  · exact (interface_thins space.name type).mem_iff (by decide)

/-- An empty target is a target, and a body of moved methods is empty. -/
example :
    let moved : Callable := { name := "f", symbol := "f", movedTo := some "" }
    let type : Interface := { name := "I", functions := [moved], methods := [moved] }
    (type.lines "A").length = (type.settled.lines "A").length + 1 ∧
      "_ = Self;" ∈ type.lines "A" := by
  decide +kernel

end ZigBindings
