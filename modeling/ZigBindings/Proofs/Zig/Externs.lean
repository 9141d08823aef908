import Mathlib.Tactic.SplitIfs
import ZigBindings.Proofs.Zig.Identifiers
import ZigBindings.Zig.Module

/-!
# Extern functions of a module

Every callable that has not moved is declared by one line, under its symbol, and made known under
its own name by the second line after that. Nothing else that is written passes for such a line,
whatever names a document gives: other lines start with a word of the language, with a bracket or
with an identifier, and the word for extern functions is no identifier.
-/

namespace ZigBindings

open ZigBindings.Text ZigBindings.Zig

def unindented (line : String) : List Char :=
  line.toList.dropWhile (· = ' ')

def declaresExtern (line : String) : Bool :=
  "extern fn ".toList.isPrefixOf (unindented line)

/-- The lines that declare extern functions, in order, and with each the second line after it; both
without their indentation. -/
def externs : List String → List (List Char × Option (List Char))
  | [] => []
  | line :: rest =>
    if declaresExtern line then (unindented line, rest[1]?.map unindented) :: externs rest
    else externs rest

/-- A callable as it is declared: as a constructor, or as a function or method. -/
structure Declared where
  callable : Callable
  constructs : Bool

namespace Declared

def returnText (entry : Declared) (current : String) : String :=
  if entry.constructs then "*Self" else entry.callable.returns.text current

/-- The line that declares a callable: its symbol, its parameters and what it returns. -/
def externLine (entry : Declared) (current : String) : String :=
  "extern fn " ++ identifier entry.callable.symbol ++ "(" ++
    parameterList entry.callable.parameters current ++ ") callconv(.C) " ++
    entry.returnText current ++ ";"

/-- The line that makes the symbol of a callable known under the camel case of its name. -/
def aliasLine (entry : Declared) : String :=
  "pub const " ++ identifier (String.ofList (camelCase ['_'] entry.callable.name.toList)) ++
    " = " ++ identifier entry.callable.symbol ++ ";"

def pair (entry : Declared) (current : String) : List Char × Option (List Char) :=
  ((entry.externLine current).toList, some entry.aliasLine.toList)

def isKept (entry : Declared) : Bool :=
  entry.callable.movedTo.isNone

/-- The callables of one owner: functions, constructors, methods. -/
def ofOwner (functions constructors methods : List Callable) : List Declared :=
  functions.map (⟨·, false⟩) ++ constructors.map (⟨·, true⟩) ++ methods.map (⟨·, false⟩)

end Declared

def Class.callables (type : Class) : List Declared :=
  Declared.ofOwner type.functions type.constructors type.methods

def Interface.callables (type : Interface) : List Declared :=
  Declared.ofOwner type.functions type.constructors type.methods

def Compound.callables (type : Compound) : List Declared :=
  Declared.ofOwner type.functions type.constructors type.methods

def Enumeration.callables (type : Enumeration) : List Declared :=
  Declared.ofOwner type.functions [] []

def Namespace.callables (space : Namespace) : List Declared :=
  space.classes.flatMap Class.callables ++ space.interfaces.flatMap Interface.callables ++
    space.records.flatMap Compound.callables ++ space.unions.flatMap Compound.callables ++
    space.enumerations.flatMap Enumeration.callables ++
    space.bitFields.flatMap Enumeration.callables ++ Declared.ofOwner space.functions [] []

/-- The lines of the type itself, which has the functions and constructors. -/
def Class.ownLines (type : Class) (current : String) : List String :=
  opening type.name "extern struct" ++
    group (fun field => [field.line current]) type.fields ++
    group (·.functionLines current 1) type.functions ++
    group (·.constructorLines current 1) type.constructors ++
    group (·.lines current 1) type.constants ++
    [mixinLine 1 type.name] ++ closing

/-- The lines of the function around the methods. -/
def Class.mixinLines (type : Class) (current : String) : List String :=
  mixin type.name
    (type.methods.flatMap (·.functionLines current 2) ++
      type.signals.flatMap (·.lines current 2) ++
      (match type.parent with
        | some parent => parentLines parent current
        | none => []))

theorem class_lines (type : Class) (current : String) :
    type.lines current = type.ownLines current ++ type.mixinLines current :=
  rfl

def Interface.ownLines (type : Interface) (current : String) : List String :=
  opening type.name "opaque" ++
    group (·.functionLines current 1) type.functions ++
    group (·.constructorLines current 1) type.constructors ++
    group (·.lines current 1) type.constants ++
    [mixinLine 1 type.name] ++ closing

def Interface.mixinLines (type : Interface) (current : String) : List String :=
  mixin type.name
    (type.methods.flatMap (·.functionLines current 2) ++
      type.signals.flatMap (·.lines current 2))

theorem interface_lines (type : Interface) (current : String) :
    type.lines current = type.ownLines current ++ type.mixinLines current :=
  rfl

section Lines

theorem unindented_indent (depth : Nat) (text : String) :
    unindented (indent depth ++ text) = unindented text := by
  simp [unindented, indent]

@[simp]
theorem declares_indented (depth : Nat) (text : String) :
    declaresExtern (indent depth ++ text) = declaresExtern text := by
  rw [declaresExtern, unindented_indent, declaresExtern]

theorem unindented_of_head {line : String} {c : Char} (head : line.toList.head? = some c)
    (ink : c ≠ ' ') : unindented line = line.toList := by
  obtain ⟨rest, spelled⟩ := List.head?_eq_some_iff.mp head
  simp [unindented, spelled, ink]

theorem plain_of_head {line : String}
    (other : line.toList.head?.all fun c => c ≠ ' ' ∧ c ≠ 'e') : declaresExtern line = false := by
  cases spelled : line.toList with
  | nil => simp [declaresExtern, unindented, spelled]
  | cons c rest =>
      rw [spelled] at other
      obtain ⟨ink, other⟩ := of_decide_eq_true other
      rw [declaresExtern, unindented_of_head (by rw [spelled]; rfl) ink, spelled]
      simp [List.isPrefixOf, Ne.symm other]

theorem head_of_start {start rest : String} {c : Char} (head : start.toList.head? = some c) :
    (start ++ rest).toList.head? = some c := by
  rw [String.toList_append, List.head?_append, head]
  rfl

theorem plain_of_start {start : String} {c : Char} (rest : String)
    (head : start.toList.head? = some c) (other : c ≠ ' ' ∧ c ≠ 'e') :
    declaresExtern (start ++ rest) = false := by
  refine plain_of_head ?_
  rw [head_of_start head]
  exact decide_eq_true other

theorem blank_plain : declaresExtern "" = false :=
  plain_of_head (by decide)

theorem pub_const_plain (rest : String) : declaresExtern ("pub const " ++ rest) = false :=
  plain_of_start rest (c := 'p') (by decide) (by decide)

theorem pub_fn_plain (rest : String) : declaresExtern ("pub fn " ++ rest) = false :=
  plain_of_start rest (c := 'p') (by decide) (by decide)

theorem self_plain (rest : String) : declaresExtern ("const Self = " ++ rest) = false :=
  plain_of_start rest (c := 'c') (by decide) (by decide)

theorem plain_of_identifier (name : String) {line rest : String} {c : Char}
    (follows : rest.toList.head? = some c) (ends : isWordChar c = false)
    (spelled : line = identifier name ++ rest) : declaresExtern line = false := by
  obtain ⟨behind, split⟩ := List.head?_eq_some_iff.mp follows
  by_cases bare : isBareIdentifier name
  · obtain ⟨first, head, start⟩ := start_of_word (word_of_bare bare)
    have ink : first ≠ ' ' := by
      rintro rfl
      exact absurd start (by decide)
    have shown : line.toList = name.toList ++ c :: behind := by
      rw [spelled, identifier_of_bare bare, String.toList_append, split]
    rw [declaresExtern, unindented_of_head (by rw [shown, List.head?_append, head]; rfl) ink,
      Bool.eq_false_iff]
    -- The first words of both are compared; an identifier ends with its own.
    intro starts
    obtain ⟨tail, same⟩ := List.isPrefixOf_iff_prefix.mp starts
    have words := congrArg (List.takeWhile isWordChar) (same.trans shown)
    have stops : ∀ d ∈ (c :: behind).head?, isWordChar d = false := by
      rintro _ ⟨rfl⟩
      exact ends
    rw [(word_taken (word_chars_of_word (word_of_bare bare)) stops).1] at words
    have keyword : "extern" = name := String.toList_inj.mp words
    rw [← keyword] at bare
    exact absurd bare (by decide)
  · refine plain_of_head ?_
    rw [spelled, quoted_identifier bare]
    simp

end Lines

/-- Some lines declare some callables, whatever comes after them. -/
def Declares (current : String) (lines : List String) (entries : List Declared) : Prop :=
  ∀ rest, externs (lines ++ rest) =
    (entries.filter Declared.isKept).map (·.pair current) ++ externs rest

section Declares

variable {current : String}

theorem declares_nil : Declares current [] [] := by
  intro rest
  rfl

theorem Declares.append {first second : List String} {entries more : List Declared}
    (declares : Declares current first entries) (further : Declares current second more) :
    Declares current (first ++ second) (entries ++ more) := by
  intro rest
  rw [List.append_assoc, declares, further, List.filter_append, List.map_append,
    List.append_assoc]

theorem Declares.after {line : String} {lines : List String} {entries : List Declared}
    (declares : Declares current lines entries) (plain : declaresExtern line = false) :
    Declares current (line :: lines) entries := by
  intro rest
  rw [List.cons_append, externs, plain]
  exact declares rest

theorem declares_flat_map {α : Type} {lines : α → List String} {entries : α → List Declared}
    (items : List α) (each : ∀ item, Declares current (lines item) (entries item)) :
    Declares current (items.flatMap lines) (items.flatMap entries) := by
  induction items with
  | nil => exact declares_nil
  | cons item rest ih => exact (each item).append ih

theorem declares_group {α : Type} {lines : α → List String} {entries : α → List Declared}
    (items : List α) (each : ∀ item, Declares current (lines item) (entries item)) :
    Declares current (group lines items) (items.flatMap entries) := by
  have blank : Declares current (if items.isEmpty then [] else [""]) [] := by
    split
    · exact declares_nil
    · exact declares_nil.after blank_plain
  unfold group
  exact List.append_nil (items.flatMap entries) ▸ (declares_flat_map items each).append blank

theorem extern_line_starts (entry : Declared) :
    ∃ rest, entry.externLine current = "extern fn " ++ rest := by
  unfold Declared.externLine
  simp only [String.append_assoc]
  exact ⟨_, rfl⟩

theorem extern_line_unindented (entry : Declared) (depth : Nat) :
    unindented (indent depth ++ entry.externLine current) = (entry.externLine current).toList := by
  obtain ⟨rest, starts⟩ := @extern_line_starts current entry
  rw [unindented_indent, starts]
  exact unindented_of_head (head_of_start (c := 'e') (by decide)) (by decide)

theorem alias_line_starts (entry : Declared) : ∃ rest, entry.aliasLine = "pub const " ++ rest := by
  unfold Declared.aliasLine
  simp only [String.append_assoc]
  exact ⟨_, rfl⟩

theorem alias_line_unindented (entry : Declared) (depth : Nat) :
    unindented (indent depth ++ entry.aliasLine) = entry.aliasLine.toList := by
  obtain ⟨rest, starts⟩ := alias_line_starts entry
  rw [unindented_indent, starts]
  exact unindented_of_head (head_of_start (c := 'p') (by decide)) (by decide)

theorem callable_declares (entry : Declared) (depth : Nat) :
    Declares current (if entry.callable.movedTo.isSome then []
      else entry.callable.lines (entry.returnText current) current depth) [entry] := by
  intro rest
  by_cases moved : entry.callable.movedTo.isSome
  · rw [if_pos moved]
    simp [Declared.isKept, Option.isSome_iff_ne_none.mp moved]
  · have kept : entry.isKept := by simpa [Declared.isKept] using moved
    have declaration : declaresExtern (indent depth ++ entry.externLine current) = true := by
      obtain ⟨rest, starts⟩ := @extern_line_starts current entry
      rw [declaresExtern, extern_line_unindented, starts, String.toList_append,
        List.isPrefixOf_iff_prefix]
      exact List.prefix_append _ _
    have synonym : declaresExtern (indent depth ++ entry.aliasLine) = false := by
      obtain ⟨rest, starts⟩ := alias_line_starts entry
      rw [declares_indented, starts]
      exact pub_const_plain rest
    have lines : entry.callable.lines (entry.returnText current) current depth =
        [indent depth ++ entry.externLine current, "", indent depth ++ entry.aliasLine, ""] := by
      unfold Declared.externLine Declared.aliasLine
      simp [Callable.lines, String.append_assoc]
    rw [if_neg moved, lines]
    simp [externs, declaration, synonym, blank_plain, kept, Declared.pair,
      extern_line_unindented, alias_line_unindented]

theorem functions_declare (callables : List Callable) (depth : Nat) :
    Declares current (callables.flatMap (·.functionLines current depth))
      (callables.map (⟨·, false⟩)) := by
  rw [← List.flatMap_singleton' (callables.map _), List.flatMap_map]
  exact declares_flat_map callables fun callable => callable_declares ⟨callable, false⟩ depth

theorem declares_nothing {lines : List String}
    (plain : ∀ line ∈ lines, declaresExtern line = false) : Declares current lines [] := by
  induction lines with
  | nil => exact declares_nil
  | cons line rest ih =>
      exact (ih fun other member => plain other (List.mem_cons_of_mem _ member)).after
        (plain line List.mem_cons_self)

theorem field_line_plain (field : Field) : declaresExtern (field.line current) = false := by
  rw [Field.line, String.append_assoc, String.append_assoc, String.append_assoc, declares_indented]
  exact plain_of_identifier field.name (c := ':') (by simp) (by decide) rfl

theorem mixin_line_plain (depth : Nat) (name : String) :
    declaresExtern (mixinLine depth name) = false := by
  rw [mixinLine, String.append_assoc, String.append_assoc, declares_indented]
  exact plain_of_start _ (c := 'p') (by decide) (by decide)

theorem signal_lines_plain (signal : Signal) (depth : Nat) :
    ∀ line ∈ signal.lines current depth, declaresExtern line = false := by
  simp only [Signal.lines, String.append_assoc, List.forall_mem_cons, declares_indented]
  exact ⟨pub_fn_plain _, plain_of_start _ (c := 'r') (by decide) (by decide),
    plain_of_head (by decide), blank_plain, by simp⟩

theorem constant_lines_plain (constant : Constant) (depth : Nat) :
    ∀ line ∈ constant.lines current depth, declaresExtern line = false := by
  simp only [Constant.lines, String.append_assoc, List.forall_mem_cons, declares_indented]
  exact ⟨pub_const_plain _, blank_plain, by simp⟩

theorem alias_lines_plain (entry : Alias) :
    ∀ line ∈ entry.lines current, declaresExtern line = false := by
  simp only [Alias.lines, String.append_assoc, List.forall_mem_cons]
  exact ⟨pub_const_plain _, blank_plain, by simp⟩

theorem callback_lines_plain (callback : Callback) :
    ∀ line ∈ callback.lines current, declaresExtern line = false := by
  unfold Callback.lines
  split_ifs
  · rw [List.forall_mem_cons, List.forall_mem_singleton]
    exact ⟨plain_of_start _ (c := 'p') (by simp) (by decide), blank_plain⟩
  · rw [String.append_assoc, String.append_assoc, String.append_assoc, List.forall_mem_cons,
      List.forall_mem_singleton]
    exact ⟨pub_const_plain _, blank_plain⟩

theorem parent_lines_plain (parent : TypeName) :
    ∀ line ∈ parentLines parent current, declaresExtern line = false := by
  simp only [parentLines, String.append_assoc, List.forall_mem_cons, declares_indented,
    mixin_line_plain]
  exact ⟨plain_of_start _ (c := 'p') (by decide) (by decide),
    plain_of_start _ (c := 'r') (by decide) (by decide), plain_of_head (by decide), blank_plain,
    trivial, by simp⟩

theorem member_line_plain (entry : Member) : declaresExtern entry.line = false := by
  rw [Member.line, String.append_assoc, String.append_assoc, String.append_assoc, declares_indented]
  exact plain_of_identifier entry.name (c := ' ') (by simp) (by decide) rfl

theorem flag_line_plain (entry : Member) : declaresExtern entry.flagLine = false := by
  rw [Member.flagLine, String.append_assoc, declares_indented]
  exact plain_of_identifier entry.name (c := ':') (by simp) (by decide) rfl

theorem opening_declares (name kind : String) : Declares current (opening name kind) [] := by
  refine declares_nothing ?_
  simp only [opening, String.append_assoc, List.forall_mem_cons, declares_indented]
  exact ⟨pub_const_plain _, self_plain _, blank_plain, by simp⟩

theorem closing_declares : Declares current closing [] :=
  declares_nothing (by decide)

theorem mixin_declares (name : String) {body : List String} {entries : List Declared}
    (declares : Declares current body entries) : Declares current (mixin name body) entries := by
  have front :
      Declares current ["pub fn " ++ name ++ "Methods(comptime Self: type) type \x7b"] [] := by
    rw [String.append_assoc]
    exact declares_nil.after (pub_fn_plain _)
  have unused : Declares current (if body.isEmpty then ["_ = Self;"] else []) [] := by
    split_ifs
    · exact declares_nothing (by decide)
    · exact declares_nil
  have inner : Declares current [indent 1 ++ "return opaque \x7b"] [] :=
    declares_nothing (by decide)
  have back : Declares current [indent 1 ++ "\x7d;", "\x7d", ""] [] :=
    declares_nothing (by decide)
  exact List.append_nil entries ▸ (((front.append unused).append inner).append declares).append back

theorem plain_flat_map {α : Type} {lines : α → List String} (items : List α)
    (each : ∀ item, ∀ line ∈ lines item, declaresExtern line = false) :
    Declares current (items.flatMap lines) [] := by
  refine declares_nothing fun line member => ?_
  obtain ⟨item, _, inside⟩ := List.mem_flatMap.mp member
  exact each item line inside

theorem signals_declare (signals : List Signal) (depth : Nat) :
    Declares current (signals.flatMap (·.lines current depth)) [] :=
  plain_flat_map signals fun signal => signal_lines_plain signal depth

theorem group_declares_nothing {α : Type} {lines : α → List String} (items : List α)
    (each : ∀ item, ∀ line ∈ lines item, declaresExtern line = false) :
    Declares current (group lines items) [] := by
  have nothing : items.flatMap (fun _ => ([] : List Declared)) = [] :=
    List.flatMap_eq_nil_iff.mpr fun _ _ => rfl
  exact nothing ▸ declares_group items fun item => declares_nothing (each item)

theorem function_group_declares (callables : List Callable) (depth : Nat) :
    Declares current (group (·.functionLines current depth) callables)
      (callables.map (⟨·, false⟩)) := by
  rw [← List.flatMap_singleton' (callables.map _), List.flatMap_map]
  exact declares_group callables fun callable => callable_declares ⟨callable, false⟩ depth

theorem constructor_group_declares (callables : List Callable) (depth : Nat) :
    Declares current (group (·.constructorLines current depth) callables)
      (callables.map (⟨·, true⟩)) := by
  rw [← List.flatMap_singleton' (callables.map _), List.flatMap_map]
  exact declares_group callables fun callable => callable_declares ⟨callable, true⟩ depth

theorem members_declare (name : String) (functions constructors : List Callable)
    (constants : List Constant) :
    Declares current (group (·.functionLines current 1) functions ++
        group (·.constructorLines current 1) constructors ++
        group (·.lines current 1) constants ++ [mixinLine 1 name] ++ closing)
      (Declared.ofOwner functions constructors []) := by
  have plain : Declares current (group (·.lines current 1) constants) [] :=
    group_declares_nothing constants fun constant => constant_lines_plain constant 1
  have declares := ((((function_group_declares functions 1).append
    (constructor_group_declares constructors 1)).append plain).append
    (declares_nil.after (mixin_line_plain 1 name))).append closing_declares
  simpa [Declared.ofOwner] using declares

theorem class_own_declares (type : Class) : Declares current (type.ownLines current)
    (Declared.ofOwner type.functions type.constructors []) := by
  have fields : Declares current (group (fun field => [field.line current]) type.fields) [] :=
    group_declares_nothing type.fields fun field => by simpa using field_line_plain field
  have declares := ((opening_declares type.name "extern struct").append fields).append
    (members_declare type.name type.functions type.constructors type.constants)
  simpa [Class.ownLines] using declares

theorem class_mixin_declares (type : Class) : Declares current (type.mixinLines current)
    (Declared.ofOwner [] [] type.methods) := by
  have signals : Declares current (type.signals.flatMap (·.lines current 2)) [] :=
    signals_declare type.signals 2
  have around (parent : List String) (plain : ∀ line ∈ parent, declaresExtern line = false) :=
    mixin_declares type.name
      (((functions_declare type.methods 2).append signals).append (declares_nothing plain))
  unfold Class.mixinLines
  cases type.parent with
  | none => simpa [Declared.ofOwner] using around [] (by simp)
  | some parent => simpa [Declared.ofOwner] using around _ (parent_lines_plain parent)

theorem class_declares (type : Class) : Declares current (type.lines current) type.callables := by
  have declares := (class_own_declares type).append (@class_mixin_declares current type)
  rw [← class_lines] at declares
  simpa [Class.callables, Declared.ofOwner] using declares

theorem interface_own_declares (type : Interface) : Declares current (type.ownLines current)
    (Declared.ofOwner type.functions type.constructors []) := by
  have front : Declares current (opening type.name "opaque") [] := opening_declares type.name _
  have declares := front.append
    (members_declare type.name type.functions type.constructors type.constants)
  simpa [Interface.ownLines] using declares

theorem interface_mixin_declares (type : Interface) : Declares current (type.mixinLines current)
    (Declared.ofOwner [] [] type.methods) := by
  have signals : Declares current (type.signals.flatMap (·.lines current 2)) [] :=
    signals_declare type.signals 2
  have declares := mixin_declares type.name ((functions_declare type.methods 2).append signals)
  simpa [Interface.mixinLines, Declared.ofOwner] using declares

theorem interface_declares (type : Interface) :
    Declares current (type.lines current) type.callables := by
  have declares := (interface_own_declares type).append (@interface_mixin_declares current type)
  rw [← interface_lines] at declares
  simpa [Interface.callables, Declared.ofOwner] using declares

theorem compound_declares (type : Compound) (kind : String) :
    Declares current (type.lines kind current) type.callables := by
  have fields : Declares current (group (fun field => [field.line current]) type.fields) [] :=
    group_declares_nothing type.fields fun field => by simpa using field_line_plain field
  have inside := ((fields.append (function_group_declares type.functions 1)).append
    (constructor_group_declares type.constructors 1)).append (functions_declare type.methods 1)
  have declares := ((opening_declares type.name kind).append inside).append closing_declares
  simpa [Compound.lines, Compound.callables, Declared.ofOwner] using declares

theorem tail_declares (type : Enumeration) :
    Declares current (type.tail current) type.callables := by
  have front : Declares current ["", indent 1 ++ "const Self = " ++ type.name ++ ";"] [] := by
    refine declares_nothing ?_
    simp only [String.append_assoc, List.forall_mem_cons, declares_indented]
    exact ⟨blank_plain, self_plain _, by simp⟩
  have attached : Declares current (attachedFunctions type.functions current)
      (type.functions.map (⟨·, false⟩)) := by
    unfold attachedFunctions
    cases type.functions with
    | nil => exact declares_nil
    | cons first others => exact (functions_declare (first :: others) 2).after blank_plain
  have declares := (front.append attached).append closing_declares
  simpa [Enumeration.tail, Enumeration.callables, Declared.ofOwner] using declares

theorem members_plain {first : String} {members : List Member} {line : Member → String}
    (start : declaresExtern first = false) (each : ∀ entry, declaresExtern (line entry) = false) :
    Declares current ([first] ++ members.map line) [] := by
  refine declares_nothing (List.forall_mem_append.mpr ⟨by simpa using start, ?_⟩)
  intro text member
  obtain ⟨entry, _, rfl⟩ := List.mem_map.mp member
  exact each entry

theorem enumeration_declares (type : Enumeration) :
    Declares current (type.lines current) type.callables := by
  unfold Enumeration.lines
  simp only [String.append_assoc]
  exact (members_plain (pub_const_plain _) member_line_plain).append (tail_declares type)

theorem flags_declare (type : Enumeration) :
    Declares current (type.flagLines current) type.callables := by
  have padding : Declares current (if 0 < type.padding then
      [indent 1 ++ ("_padding: u" ++ (decimal type.padding ++ " = 0,"))] else []) [] := by
    split_ifs
    · refine declares_nil.after ?_
      rw [declares_indented]
      exact plain_of_start _ (c := '_') (by decide) (by decide)
    · exact declares_nil
  unfold Enumeration.flagLines
  simp only [String.append_assoc]
  exact ((members_plain (pub_const_plain _) flag_line_plain).append padding).append
    (tail_declares type)

end Declares

theorem namespace_declares (space : Namespace) :
    Declares space.name space.lines space.callables := by
  have aliases : Declares space.name (space.aliases.flatMap (·.lines space.name)) [] :=
    plain_flat_map space.aliases alias_lines_plain
  have callbacks : Declares space.name (space.callbacks.flatMap (·.lines space.name)) [] :=
    plain_flat_map space.callbacks callback_lines_plain
  have constants : Declares space.name (space.constants.flatMap (·.lines space.name 0)) [] :=
    plain_flat_map space.constants (constant_lines_plain · 0)
  have types := ((((((aliases.append (declares_flat_map space.classes class_declares)).append
    (declares_flat_map space.interfaces interface_declares)).append
    (declares_flat_map space.records (compound_declares · "extern struct"))).append
    (declares_flat_map space.unions (compound_declares · "extern union"))).append
    (declares_flat_map space.enumerations enumeration_declares)).append
    (declares_flat_map space.bitFields flags_declare))
  have declares := ((types.append (functions_declare space.functions 0)).append
    callbacks).append constants
  simpa [Namespace.lines, Namespace.callables, Declared.ofOwner] using declares

/-- A member and a type may be named like a declaration; only the function is one. -/
example :
    externs (Namespace.lines {
      name := "A"
      aliases := [⟨"extern fn f", {}⟩]
      enumerations := [⟨"E", [⟨"extern fn g(", 1⟩], [
        { name := "move_on", symbol := "a_move_on" },
        { name := "gone", symbol := "a_gone", movedTo := some "F.gone" }]⟩] }) =
      [("extern fn a_move_on() callconv(.C) void;".toList,
        some "pub const moveOn = a_move_on;".toList)] := by
  decide +kernel

end ZigBindings
