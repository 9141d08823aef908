import Mathlib.Tactic.SplitIfs
import ZigBindings.Proofs.Zig.Scopes

/-!
# How declared names are spelled

Every line of a module either declares something or is one of a few other lines. A line that
declares has the name behind the words of its kind, or at its head if it is that of a field or
member. Names of callables, constants, fields and members are made identifiers; names of types are
written as they are, alone or as a part of the name of a function.
-/

namespace ZigBindings

open ZigBindings.Text ZigBindings.Zig

/-- Where a line has the name of what it declares. -/
inductive NamePlace where
  | constant
  | function
  | symbol
  | entry
  deriving DecidableEq

/-- The words in front of a declared name. -/
def NamePlace.words : NamePlace → String
  | .constant => "pub const "
  | .function => "pub fn "
  | .symbol => "extern fn "
  | .entry => ""

/-- A declared name: it is made an identifier, or it is written as it is. -/
structure Spelling where
  place : NamePlace
  name : String
  escaped : Bool
  deriving DecidableEq

def Spelling.text (spelling : Spelling) : String :=
  if spelling.escaped then identifier spelling.name else spelling.name

def Callable.spellings (callable : Callable) : List Spelling :=
  if callable.movedTo.isSome then []
  else [⟨.symbol, callable.symbol, true⟩, ⟨.constant, callable.camelName, true⟩]

def Signal.spelling (signal : Signal) : Spelling :=
  ⟨.function, signal.connectName, false⟩

def Field.spelling (field : Field) : Spelling :=
  ⟨.entry, field.name, true⟩

def Constant.spelling (constant : Constant) : Spelling :=
  ⟨.constant, constant.name, true⟩

def Member.spelling (entry : Member) : Spelling :=
  ⟨.entry, entry.name, true⟩

def typeSpelling (name : String) : Spelling :=
  ⟨.constant, name, false⟩

def mixinSpelling (name : String) : Spelling :=
  ⟨.function, name ++ "Methods", false⟩

def parentSpelling (parent : TypeName) : Spelling :=
  ⟨.function, "as" ++ parent.base, false⟩

def Class.spellings (type : Class) : List Spelling :=
  typeSpelling type.name :: (type.fields.map Field.spelling ++
    type.functions.flatMap Callable.spellings ++ type.constructors.flatMap Callable.spellings ++
    type.constants.map Constant.spelling) ++
    mixinSpelling type.name :: (type.methods.flatMap Callable.spellings ++
      type.signals.map Signal.spelling ++ type.parent.toList.map parentSpelling)

def Interface.spellings (type : Interface) : List Spelling :=
  typeSpelling type.name :: (type.functions.flatMap Callable.spellings ++
    type.constructors.flatMap Callable.spellings ++ type.constants.map Constant.spelling) ++
    mixinSpelling type.name :: (type.methods.flatMap Callable.spellings ++
      type.signals.map Signal.spelling)

def Compound.spellings (type : Compound) : List Spelling :=
  typeSpelling type.name :: (type.fields.map Field.spelling ++
    type.functions.flatMap Callable.spellings ++ type.constructors.flatMap Callable.spellings ++
    type.methods.flatMap Callable.spellings)

def Enumeration.spellings (type : Enumeration) : List Spelling :=
  typeSpelling type.name :: (type.members.map Member.spelling ++
    type.functions.flatMap Callable.spellings)

/-- The bits that no flag takes have a name of their own. -/
def Enumeration.flagSpellings (type : Enumeration) : List Spelling :=
  typeSpelling type.name :: (type.flags.map Member.spelling ++
    (if 0 < type.padding then [⟨.entry, "_padding", false⟩] else []) ++
    type.functions.flatMap Callable.spellings)

/-- What the lines of a module declare, line after line. -/
def Namespace.spellings (space : Namespace) : List Spelling :=
  space.aliases.map (typeSpelling ·.name) ++ space.classes.flatMap Class.spellings ++
    space.interfaces.flatMap Interface.spellings ++ space.records.flatMap Compound.spellings ++
    space.unions.flatMap Compound.spellings ++
    space.enumerations.flatMap Enumeration.spellings ++
    space.bitFields.flatMap Enumeration.flagSpellings ++
    space.functions.flatMap Callable.spellings ++ space.callbacks.map (typeSpelling ·.name) ++
    space.constants.map Constant.spelling

/-- A line declares a name: behind its indentation stand the words of the place and the name as it
is spelled, and it goes on with a sign that belongs to no word. -/
def Spelling.Heads (spelling : Spelling) (line : String) : Prop :=
  ∃ depth behind c, line = indent depth ++ (spelling.place.words ++ (spelling.text ++ behind)) ∧
    behind.toList.head? = some c ∧ isWordChar c = false

/-- The words that other lines start with. -/
def otherWords : List String :=
  ["const Self = ", "pub usingnamespace ", "return ", "_ = Self;", "\x7d"]

def IsOther (line : String) : Prop :=
  line = "" ∨ ∃ depth behind, ∃ start ∈ otherWords, line = indent depth ++ (start ++ behind)

/-- Some lines declare some names, in order, and nothing else. -/
inductive Spells : List String → List Spelling → Prop
  | done : Spells [] []
  | declared {line : String} {lines : List String} {spelling : Spelling}
      {spellings : List Spelling} (heads : spelling.Heads line)
      (rest : Spells lines spellings) : Spells (line :: lines) (spelling :: spellings)
  | passed {line : String} {lines : List String} {spellings : List Spelling}
      (other : IsOther line) (rest : Spells lines spellings) : Spells (line :: lines) spellings

section Lists

theorem Spells.append {first second : List String} {spellings more : List Spelling}
    (spells : Spells first spellings) (further : Spells second more) :
    Spells (first ++ second) (spellings ++ more) := by
  induction spells with
  | done => exact further
  | declared heads _ ih => exact .declared heads ih
  | passed other _ ih => exact .passed other ih

theorem spells_flat_map {α : Type} {lines : α → List String} {spellings : α → List Spelling}
    (items : List α) (each : ∀ item, Spells (lines item) (spellings item)) :
    Spells (items.flatMap lines) (items.flatMap spellings) := by
  induction items with
  | nil => exact .done
  | cons item rest ih => exact (each item).append ih

theorem spells_map {α : Type} {lines : α → List String} {spelling : α → Spelling}
    (items : List α) (each : ∀ item, Spells (lines item) [spelling item]) :
    Spells (items.flatMap lines) (items.map spelling) := by
  rw [← List.flatMap_singleton' (items.map spelling), List.flatMap_map]
  exact spells_flat_map items each

theorem other_blank : IsOther "" :=
  .inl rfl

theorem spells_group {α : Type} {lines : α → List String} {items : List α}
    {spellings : List Spelling} (each : Spells (items.flatMap lines) spellings) :
    Spells (group lines items) spellings := by
  unfold group
  split
  · exact (List.append_nil (items.flatMap lines)).symm ▸ each
  · exact List.append_nil spellings ▸ each.append (.passed other_blank .done)

end Lists

section Lines

variable {current : String} {depth : Nat}

theorem other_of_start (start : String) (listed : start ∈ otherWords) (depth : Nat)
    (behind : String) : IsOther (indent depth ++ (start ++ behind)) :=
  .inr ⟨depth, behind, start, listed, rfl⟩

theorem unindented_other (start : String) (listed : start ∈ otherWords) (behind : String) :
    IsOther (start ++ behind) :=
  .inr ⟨0, behind, start, listed, by simp [indent]⟩

theorem heads_of_sign (spelling : Spelling) (depth : Nat) {behind : String} {c : Char}
    (sign : behind.toList.head? = some c) (ends : isWordChar c = false) :
    spelling.Heads (indent depth ++ (spelling.place.words ++ (spelling.text ++ behind))) :=
  ⟨depth, behind, c, rfl, sign, ends⟩

theorem unindented_heads (spelling : Spelling) {behind : String} {c : Char}
    (sign : behind.toList.head? = some c) (ends : isWordChar c = false) :
    spelling.Heads (spelling.place.words ++ (spelling.text ++ behind)) :=
  ⟨0, behind, c, by simp [indent], sign, ends⟩

theorem callable_spells (callable : Callable) (returns : String) (kept : ¬callable.movedTo.isSome) :
    Spells (callable.lines returns current depth) callable.spellings := by
  rw [Callable.spellings, if_neg kept]
  unfold Callable.lines
  simp only [String.append_assoc]
  exact .declared (heads_of_sign ⟨.symbol, callable.symbol, true⟩ depth
      (head_of_start (c := '(') (by decide)) rfl) (.passed other_blank
    (.declared (heads_of_sign ⟨.constant, callable.camelName, true⟩ depth
      (head_of_start (c := ' ') (by decide)) rfl) (.passed other_blank .done)))

theorem function_spells (callable : Callable) :
    Spells (callable.functionLines current depth) callable.spellings := by
  unfold Callable.functionLines
  split_ifs with moved
  · rw [Callable.spellings, if_pos moved]
    exact .done
  · exact callable_spells callable _ moved

theorem constructor_spells (callable : Callable) :
    Spells (callable.constructorLines current depth) callable.spellings := by
  unfold Callable.constructorLines
  split_ifs with moved
  · rw [Callable.spellings, if_pos moved]
    exact .done
  · exact callable_spells callable _ moved

theorem signal_spells (signal : Signal) :
    Spells (signal.lines current depth) [signal.spelling] := by
  unfold Signal.lines
  simp only [String.append_assoc]
  exact .declared (heads_of_sign signal.spelling depth (head_of_start (c := '(') (by decide)) rfl)
    (.passed (other_of_start "return " (by decide) _ _)
    (.passed (other_of_start "\x7d" (by decide) _ "")
    (.passed other_blank .done)))

theorem field_spells (field : Field) : Spells [field.line current] [field.spelling] := by
  unfold Field.line
  simp only [String.append_assoc]
  exact .declared (heads_of_sign field.spelling 1 (head_of_start (c := ':') (by decide)) rfl) .done

theorem constant_spells (constant : Constant) :
    Spells (constant.lines current depth) [constant.spelling] := by
  unfold Constant.lines
  simp only [String.append_assoc]
  exact .declared (heads_of_sign constant.spelling depth
    (head_of_start (c := ':') (by decide)) rfl) (.passed other_blank .done)

theorem alias_spells (entry : Alias) : Spells (entry.lines current) [typeSpelling entry.name] := by
  unfold Alias.lines
  simp only [String.append_assoc]
  exact .declared (unindented_heads (typeSpelling entry.name)
    (head_of_start (c := ' ') (by decide)) rfl) (.passed other_blank .done)

theorem callback_spells (callback : Callback) :
    Spells (callback.lines current) [typeSpelling callback.name] := by
  unfold Callback.lines
  split_ifs with named
  · rw [named]
    -- The callback that refers to itself has a fixed line.
    have heads : (typeSpelling selfReferringCallback).Heads
        ("pub const ClosureNotify = ?*const fn (p_data: ?*anyopaque, p_closure: *anyopaque) " ++
          "callconv(.C) void;") := by
      refine ⟨0, " = ?*const fn (p_data: ?*anyopaque, p_closure: *anyopaque) callconv(.C) void;",
        ' ', ?_, by decide, rfl⟩
      decide +kernel
    exact .declared heads (.passed other_blank .done)
  · simp only [String.append_assoc]
    exact .declared (unindented_heads (typeSpelling callback.name)
      (head_of_start (c := ' ') (by decide)) rfl) (.passed other_blank .done)

theorem member_spells (entry : Member) : Spells [entry.line] [entry.spelling] := by
  unfold Member.line
  simp only [String.append_assoc]
  exact .declared (heads_of_sign entry.spelling 1 (head_of_start (c := ' ') (by decide)) rfl) .done

theorem flag_spells (entry : Member) : Spells [entry.flagLine] [entry.spelling] := by
  unfold Member.flagLine
  simp only [String.append_assoc]
  exact .declared (heads_of_sign entry.spelling 1 (c := ':') (by decide) rfl) .done

theorem opening_spells (name kind : String) : Spells (opening name kind) [typeSpelling name] := by
  unfold opening
  simp only [String.append_assoc]
  exact .declared (unindented_heads (typeSpelling name) (head_of_start (c := ' ') (by decide)) rfl)
    (.passed (other_of_start "const Self = " (by decide) _ _)
    (.passed other_blank .done))

theorem closing_spells : Spells closing [] :=
  .passed (unindented_other "\x7d" (by decide) ";") (.passed other_blank .done)

theorem mixin_line_spells (depth : Nat) (name : String) : Spells [mixinLine depth name] [] := by
  unfold mixinLine
  simp only [String.append_assoc]
  exact .passed (other_of_start "pub usingnamespace " (by decide) _ _) .done

theorem mixin_spells (name : String) {body : List String} {spellings : List Spelling}
    (spells : Spells body spellings) :
    Spells (mixin name body) (mixinSpelling name :: spellings) := by
  have front : Spells ["pub fn " ++ name ++ "Methods(comptime Self: type) type \x7b"]
      [mixinSpelling name] := by
    -- The ending of the name stands in one literal with what follows it.
    have spelled : "pub fn " ++ name ++ "Methods(comptime Self: type) type \x7b" =
        "pub fn " ++ ((name ++ "Methods") ++ "(comptime Self: type) type \x7b") := by
      simp only [String.append_assoc]
      rfl
    rw [spelled]
    exact .declared (unindented_heads (mixinSpelling name) (c := '(') (by decide) rfl) .done
  have unused : Spells (if body.isEmpty then ["_ = Self;"] else []) [] := by
    split_ifs
    · exact .passed (unindented_other "_ = Self;" (by decide) "") .done
    · exact .done
  have inner : Spells [indent 1 ++ "return opaque \x7b"] [] :=
    .passed (other_of_start "return " (by decide) 1 "opaque \x7b") .done
  have back : Spells [indent 1 ++ "\x7d;", "\x7d", ""] [] :=
    .passed (other_of_start "\x7d" (by decide) 1 ";")
      (.passed (unindented_other "\x7d" (by decide) "") (.passed other_blank .done))
  have whole := (((front.append unused).append inner).append spells).append back
  exact (List.append_nil (mixinSpelling name :: spellings)) ▸ whole

theorem parent_spells (parent : TypeName) :
    Spells (parentLines parent current) [parentSpelling parent] := by
  have spelled (rest : String) : "pub fn as" ++ (parent.base ++ rest) =
      "pub fn " ++ (("as" ++ parent.base) ++ rest) := by
    simp only [← String.append_assoc]
    rfl
  have returns (rest : String) :
      "return @ptrCast(*" ++ rest = "return " ++ ("@ptrCast(*" ++ rest) := by
    simp only [← String.append_assoc]
    rfl
  unfold parentLines
  simp only [String.append_assoc]
  rw [spelled, returns]
  exact .declared (heads_of_sign (parentSpelling parent) 2 (head_of_start (c := '(') (by decide))
      rfl)
    (.passed (other_of_start "return " (by decide) 3 _)
    (.passed (other_of_start "\x7d" (by decide) 2 "")
    (.passed other_blank (mixin_line_spells 2 _))))

end Lines

section Types

variable (current : String)

theorem functions_spell (callables : List Callable) (depth : Nat) :
    Spells (callables.flatMap (·.functionLines current depth))
      (callables.flatMap Callable.spellings) :=
  spells_flat_map callables function_spells

theorem constructors_spell (callables : List Callable) (depth : Nat) :
    Spells (callables.flatMap (·.constructorLines current depth))
      (callables.flatMap Callable.spellings) :=
  spells_flat_map callables constructor_spells

theorem fields_spell (fields : List Field) :
    Spells (group (fun field => [field.line current]) fields) (fields.map Field.spelling) :=
  spells_group (spells_map fields field_spells)

theorem constants_spell (constants : List Constant) (depth : Nat) :
    Spells (constants.flatMap (·.lines current depth)) (constants.map Constant.spelling) :=
  spells_map constants constant_spells

theorem signals_spell (signals : List Signal) (depth : Nat) :
    Spells (signals.flatMap (·.lines current depth)) (signals.map Signal.spelling) :=
  spells_map signals signal_spells

theorem members_spell {line : Member → String} (members : List Member)
    (each : ∀ entry, Spells [line entry] [entry.spelling]) :
    Spells (members.map line) (members.map Member.spelling) := by
  rw [List.map_eq_flatMap]
  exact spells_map members each

theorem class_mixin_spells (type : Class) : Spells (type.mixinLines current)
    (mixinSpelling type.name :: (type.methods.flatMap Callable.spellings ++
      type.signals.map Signal.spelling ++ type.parent.toList.map parentSpelling)) := by
  have methods := (functions_spell current type.methods 2).append
    (signals_spell current type.signals 2)
  unfold Class.mixinLines
  refine mixin_spells type.name (methods.append ?_)
  cases type.parent with
  | none => exact .done
  | some parent => exact parent_spells parent

theorem class_spells (type : Class) : Spells (type.lines current) type.spellings := by
  have own := (((((opening_spells type.name "extern struct").append
    (fields_spell current type.fields)).append
    (spells_group (functions_spell current type.functions 1))).append
    (spells_group (constructors_spell current type.constructors 1))).append
    (spells_group (constants_spell current type.constants 1))).append
    (mixin_line_spells 1 type.name)
  have whole := (own.append closing_spells).append (class_mixin_spells current type)
  rw [class_lines]
  simpa [Class.ownLines, Class.spellings] using whole

theorem interface_spells (type : Interface) : Spells (type.lines current) type.spellings := by
  have methods := (functions_spell current type.methods 2).append
    (signals_spell current type.signals 2)
  have own := ((((opening_spells type.name "opaque").append
    (spells_group (functions_spell current type.functions 1))).append
    (spells_group (constructors_spell current type.constructors 1))).append
    (spells_group (constants_spell current type.constants 1))).append
    (mixin_line_spells 1 type.name)
  have whole := (own.append closing_spells).append (mixin_spells type.name methods)
  simpa [Interface.lines, Interface.spellings] using whole

theorem compound_spells (type : Compound) (kind : String) :
    Spells (type.lines kind current) type.spellings := by
  have whole := (((((opening_spells type.name kind).append
    (fields_spell current type.fields)).append
    (spells_group (functions_spell current type.functions 1))).append
    (spells_group (constructors_spell current type.constructors 1))).append
    (functions_spell current type.methods 1)).append closing_spells
  simpa [Compound.lines, Compound.spellings] using whole

theorem tail_spells (type : Enumeration) :
    Spells (type.tail current) (type.functions.flatMap Callable.spellings) := by
  have front : Spells ["", indent 1 ++ "const Self = " ++ type.name ++ ";"] [] := by
    simp only [String.append_assoc]
    exact .passed other_blank
      (.passed (other_of_start "const Self = " (by decide) 1 _) .done)
  have attached : Spells (attachedFunctions type.functions current)
      (type.functions.flatMap Callable.spellings) := by
    unfold attachedFunctions
    split
    · rename_i none
      rw [List.isEmpty_iff.mp none]
      exact .done
    · exact .passed other_blank (functions_spell current type.functions 2)
  have whole := (front.append attached).append closing_spells
  simpa [Enumeration.tail] using whole

theorem width_line_spells (name kind : String) {c : Char} (tag : TagWidth)
    (sign : kind.toList.head? = some c) (ends : isWordChar c = false) :
    Spells ["pub const " ++ name ++ kind ++ tag.text ++ ") \x7b"] [typeSpelling name] := by
  simp only [String.append_assoc]
  exact .declared (unindented_heads (typeSpelling name) (head_of_start sign) ends) .done

theorem enumeration_spells (type : Enumeration) :
    Spells (type.lines current) type.spellings := by
  have first := width_line_spells type.name " = enum(" (tagWidth type.members)
    (by decide) (c := ' ') rfl
  have whole := (first.append (members_spell type.members member_spells)).append
    (tail_spells current type)
  simpa [Enumeration.lines, Enumeration.spellings] using whole

theorem padding_spells (bits : String) :
    Spells [indent 1 ++ "_padding: u" ++ bits ++ " = 0,"] [⟨.entry, "_padding", false⟩] := by
  have spelled (rest : String) : "_padding: u" ++ rest = "" ++ ("_padding" ++ (": u" ++ rest)) := by
    simp only [← String.append_assoc]
    rfl
  simp only [String.append_assoc]
  rw [spelled]
  exact .declared (heads_of_sign ⟨.entry, "_padding", false⟩ 1
    (head_of_start (c := ':') (by decide)) rfl) .done

theorem flags_spell (type : Enumeration) :
    Spells (type.flagLines current) type.flagSpellings := by
  have first := width_line_spells type.name " = packed struct("
    (tagWidth type.members) (by decide) (c := ' ') rfl
  have padding : Spells (if 0 < type.padding then
        [indent 1 ++ "_padding: u" ++ decimal type.padding ++ " = 0,"] else [])
      (if 0 < type.padding then [⟨.entry, "_padding", false⟩] else []) := by
    split_ifs
    · exact padding_spells _
    · exact .done
  have whole := ((first.append (members_spell type.flags flag_spells)).append padding).append
    (tail_spells current type)
  simpa [Enumeration.flagLines, Enumeration.flagSpellings] using whole

end Types

theorem namespace_spells (space : Namespace) : Spells space.lines space.spellings := by
  have aliases := spells_map space.aliases (@alias_spells space.name)
  have types := ((((((aliases.append
    (spells_flat_map space.classes (class_spells space.name))).append
    (spells_flat_map space.interfaces (interface_spells space.name))).append
    (spells_flat_map space.records (compound_spells space.name · "extern struct"))).append
    (spells_flat_map space.unions (compound_spells space.name · "extern union"))).append
    (spells_flat_map space.enumerations (enumeration_spells space.name))).append
    (spells_flat_map space.bitFields (flags_spell space.name)))
  have whole := ((types.append (functions_spell space.name space.functions 0)).append
    (spells_map space.callbacks (@callback_spells space.name))).append
    (constants_spell space.name space.constants 0)
  exact whole

end ZigBindings
