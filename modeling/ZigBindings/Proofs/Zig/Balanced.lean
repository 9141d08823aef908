import ZigBindings.Proofs.Zig.BalancedTypes
import ZigBindings.Zig.Module

/-!
# Modules are balanced

The brackets of a module are properly nested and its literals closed, if the names and values that
are written as they are hold none of these signs. All other names and values are written as
identifiers or literals, whatever they hold.
-/

namespace ZigBindings

open ZigBindings.Text ZigBindings.Zig

/-- Some lines lead from the brackets that are awaited before them to those awaited after them. -/
def Spans (lines : List String) (before after : List Char) : Prop :=
  Leads (joinLines lines) before after

section Spans

variable {first second lines : List String} {line : String} {before between after : List Char}

theorem spans_nil : Spans [] [] [] := by
  unfold Spans
  decide

theorem Spans.append (spans : Spans first before between) (further : Spans second between after) :
    Spans (first ++ second) before after := by
  have split : joinLines (first ++ second) = joinLines first ++ joinLines second := by
    simp [joinLines]
  unfold Spans
  rw [split]
  exact Leads.append spans further

theorem Spans.within (spans : Spans lines [] []) (awaited : List Char) :
    Spans lines awaited awaited :=
  Balanced.leads spans awaited

theorem spans_line (leads : Leads line before after) : Spans [line] before after := by
  have feed : Balanced "\n" := by decide
  have spelled : joinLines [line] = line ++ "\n" := by simp [joinLines]
  unfold Spans
  rw [spelled]
  exact leads.balanced feed

theorem Spans.cons (leads : Leads line before between) (further : Spans lines between after) :
    Spans (line :: lines) before after :=
  (spans_line leads).append further

theorem spans_flat_map {α : Type} {lines : α → List String} {items : List α}
    (each : ∀ item ∈ items, Spans (lines item) [] []) : Spans (items.flatMap lines) [] [] := by
  induction items with
  | nil => exact spans_nil
  | cons item rest ih =>
      obtain ⟨here, others⟩ := List.forall_mem_cons.mp each
      exact here.append (ih others)

theorem spans_group {α : Type} {lines : α → List String} {items : List α}
    (each : ∀ item ∈ items, Spans (lines item) [] []) : Spans (group lines items) [] [] := by
  refine (spans_flat_map each).append ?_
  split
  · exact spans_nil
  · exact spans_line blank_balanced

end Spans

/-- A constant that is written as a literal, or has a value without brackets and double quotes. -/
def Constant.IsPlain (constant : Constant) : Prop :=
  constant.type.isString = false → Neutral constant.value.toList

instance (constant : Constant) : Decidable constant.IsPlain :=
  inferInstanceAs (Decidable (_ → _))

def Class.bareNames (type : Class) : List String :=
  type.name :: type.signals.map (·.name)

def Interface.bareNames (type : Interface) : List String :=
  type.name :: type.signals.map (·.name)

def Namespace.bareNames (space : Namespace) : List String :=
  space.aliases.map (·.name) ++ space.classes.flatMap Class.bareNames ++
    space.interfaces.flatMap Interface.bareNames ++ space.records.map (·.name) ++
    space.unions.map (·.name) ++ space.enumerations.map (·.name) ++ space.bitFields.map (·.name) ++
    space.callbacks.map (·.name)

def Namespace.allConstants (space : Namespace) : List Constant :=
  space.classes.flatMap (·.constants) ++ space.interfaces.flatMap (·.constants) ++ space.constants

/-- What is written of a namespace as it is holds neither brackets nor double quotes. Nothing is
said of the names of fields, functions, symbols, parameters, members and constants, nor of the
values of constants that are text. -/
structure Namespace.IsPlain (space : Namespace) : Prop where
  names : ∀ name ∈ space.bareNames, Neutral name.toList
  references : ∀ reference ∈ space.references, reference.IsNeutral
  constants : ∀ constant ∈ space.allConstants, constant.IsPlain

section Declarations

variable {current : String}

theorem indent_balanced (depth : Nat) : Balanced (indent depth) := by
  refine Neutral.balanced ?_
  rw [indent, String.toList_ofList]
  intro c member
  rw [List.eq_of_mem_replicate member]
  decide

theorem Callable.lines_balanced {callable : Callable} {returns : String}
    (neutral : ∀ reference ∈ callable.parameters.flatMap Parameter.references, reference.IsNeutral)
    (balanced : Balanced returns) (depth : Nat) :
    Spans (callable.lines returns current depth) [] [] := by
  have word : Balanced "extern fn " := by decide
  have opens : Leads "(" [] [')'] := by decide
  have symbol := identifier_balanced callable.symbol
  have declaration := (((((((indent_balanced depth).balanced word).balanced symbol).append
    opens).balanced (@parameter_list_balanced current _ neutral)).append signature_closes).balanced
    balanced).balanced signs_balanced.2
  have synonym (name : String) := (((((indent_balanced depth).balanced
    pub_const_balanced).balanced (identifier_balanced name)).balanced
    signs_balanced.1).balanced symbol).balanced signs_balanced.2
  exact .cons declaration (.cons blank_balanced (.cons (synonym _) (.cons blank_balanced spans_nil)))

theorem Callable.function_lines_balanced {callable : Callable}
    (neutral : ∀ reference ∈ callable.references, reference.IsNeutral) (depth : Nat) :
    Spans (callable.functionLines current depth) [] [] := by
  unfold Callable.references at neutral
  unfold Callable.functionLines
  by_cases moved : callable.movedTo.isSome
  · rw [if_pos moved]
    exact spans_nil
  · rw [if_neg moved] at neutral ⊢
    obtain ⟨parameters, returns⟩ := List.forall_mem_append.mp neutral
    exact Callable.lines_balanced parameters
      (ReturnValue.text_balanced (returns _ List.mem_cons_self)) depth

theorem Callable.constructor_lines_balanced {callable : Callable}
    (neutral : ∀ reference ∈ callable.constructorReferences, reference.IsNeutral) (depth : Nat) :
    Spans (callable.constructorLines current depth) [] [] := by
  have owner : Balanced "*Self" := by decide
  unfold Callable.constructorReferences at neutral
  unfold Callable.constructorLines
  by_cases moved : callable.movedTo.isSome
  · rw [if_pos moved]
    exact spans_nil
  · rw [if_neg moved] at neutral ⊢
    exact Callable.lines_balanced neutral owner depth

theorem Signal.callback_text_balanced {signal : Signal}
    (neutral : ∀ reference ∈ signal.references, reference.IsNeutral) :
    Balanced (signal.callbackText current) := by
  obtain ⟨parameters, returns⟩ := List.forall_mem_append.mp (List.forall_mem_append.mp neutral).1
  have opens : Leads "*const fn (" [] [')'] := by decide
  have between : Balanced ", " := by decide
  have first : ∀ text ∈ ["*Self"], Balanced text := by decide
  have last : ∀ text ∈ ["?*anyopaque"], Balanced text := by decide
  have texts := List.forall_mem_append.mpr ⟨List.forall_mem_append.mpr
    ⟨first, @parameter_texts_balanced current _ parameters⟩, last⟩
  exact ((opens.balanced (intercalate_balanced between texts)).append signature_closes).balanced
    (ReturnValue.text_balanced (returns _ List.mem_cons_self))

theorem Signal.connect_name_balanced {signal : Signal} (name : Neutral signal.name.toList) :
    Balanced signal.connectName := by
  have word : Balanced "connect" := by decide
  refine word.balanced (Neutral.balanced ?_)
  rw [String.toList_ofList]
  exact neutral_pascalCase name

theorem Signal.lines_balanced {signal : Signal} (name : Neutral signal.name.toList)
    (neutral : ∀ reference ∈ signal.references, reference.IsNeutral) (depth : Nat) :
    Spans (signal.lines current depth) [] [] := by
  have words : Balanced "pub fn " ∧ Balanced "return " := by decide
  have taken : Leads "(p_self: *Self, p_callback: " [] [')'] := by decide
  have opens : Leads ", p_data: ?*anyopaque) c_ulong \x7b" [')'] ['\x7d'] := by decide
  have closes : Leads "\x7d" ['\x7d'] [] := by decide
  have call : Leads "signalConnectData(p_self, " [] [')'] := by decide
  have cast : Leads ", @ptrCast(" [')'] [')', ')'] := by decide
  have castEnd : Leads "Callback, p_callback), p_data, null, " [')', ')'] [')'] := by
    decide
  have callEnd : Leads ".\x7b\x7d);" [')'] [] := by decide
  have objects : Balanced (modulePrefix (some "gobject") current) := by
    refine Neutral.balanced (neutral_modulePrefix ?_)
    rintro _ ⟨rfl⟩
    decide
  have first := (((((indent_balanced depth).balanced words.1).balanced
    (connect_name_balanced name)).append taken).balanced
    (@Signal.callback_text_balanced current _ neutral)).append opens
  have second := ((((((((indent_balanced (depth + 1)).balanced words.2).balanced objects).append
    call).balanced (literal_balanced signal.name)).append cast).balanced objects).append
    castEnd).append callEnd
  have third := ((indent_balanced depth).leads ['\x7d']).append closes
  exact .cons first (.cons (Balanced.leads second _) (.cons third (.cons blank_balanced spans_nil)))

theorem Field.line_balanced {field : Field}
    (neutral : ∀ reference ∈ field.references, reference.IsNeutral) :
    Balanced (field.line current) := by
  have signs : Balanced ": " ∧ Balanced "," := by decide
  exact ((((indent_balanced 1).balanced (identifier_balanced field.name)).balanced signs.1).balanced
    (FieldType.text_balanced neutral)).balanced signs.2

theorem Constant.value_text_balanced {constant : Constant} (plain : constant.IsPlain) :
    Balanced constant.valueText := by
  unfold Constant.valueText
  cases isString : constant.type.isString with
  | true =>
      rw [if_pos rfl]
      exact literal_balanced constant.value
  | false =>
      rw [if_neg Bool.false_ne_true]
      exact Neutral.balanced (plain isString)

theorem Constant.lines_balanced {constant : Constant} (plain : constant.IsPlain)
    (neutral : ∀ reference ∈ constant.references, reference.IsNeutral) (depth : Nat) :
    Spans (constant.lines current depth) [] [] := by
  have colon : Balanced ": " := by decide
  have line := (((((((indent_balanced depth).balanced pub_const_balanced).balanced
    (identifier_balanced constant.name)).balanced colon).balanced
    (@TypeRef.text_balanced current _ (neutral _ List.mem_cons_self))).balanced
    signs_balanced.1).balanced (value_text_balanced plain)).balanced signs_balanced.2
  exact .cons line (.cons blank_balanced spans_nil)

theorem naming_balanced {name text : String} (neutral : Neutral name.toList)
    (balanced : Balanced text) : Balanced ("pub const " ++ name ++ " = " ++ text ++ ";") := by
  exact (((pub_const_balanced.balanced neutral.balanced).balanced signs_balanced.1).balanced
    balanced).balanced signs_balanced.2

theorem Alias.lines_balanced {entry : Alias} (name : Neutral entry.name.toList)
    (neutral : ∀ reference ∈ entry.references, reference.IsNeutral) :
    Spans (entry.lines current) [] [] := by
  have type := @SimpleType.text_balanced current entry.type (neutral _ List.mem_cons_self)
  exact .cons (naming_balanced name type) (.cons blank_balanced spans_nil)

theorem Callback.lines_balanced {callback : Callback} (name : Neutral callback.name.toList)
    (neutral : ∀ reference ∈ callback.declaredReferences, reference.IsNeutral) :
    Spans (callback.lines current) [] [] := by
  unfold Callback.declaredReferences at neutral
  unfold Callback.lines
  by_cases fixed : callback.name = selfReferringCallback
  · rw [if_pos fixed]
    refine .cons ?_ (.cons blank_balanced spans_nil)
    decide +kernel
  · rw [if_neg fixed] at neutral ⊢
    exact .cons (naming_balanced name (Callback.text_balanced neutral)) (.cons blank_balanced spans_nil)

end Declarations

section Containers

variable {current : String}

theorem opening_spans {name kind : String} (neutral : Neutral name.toList)
    (balanced : Balanced kind) : Spans (opening name kind) [] ['\x7d'] := by
  have self : Balanced "const Self = " := by decide
  have opens : Leads " \x7b" [] ['\x7d'] := by decide
  have first := (((pub_const_balanced.balanced neutral.balanced).balanced
    signs_balanced.1).balanced balanced).append opens
  have second := (((indent_balanced 1).balanced self).balanced neutral.balanced).balanced
    signs_balanced.2
  exact .cons first (.cons (Balanced.leads second _) (.cons (blank_balanced.leads _) (spans_nil.within _)))

theorem closing_spans : Spans closing ['\x7d'] [] := by
  unfold Spans
  decide

theorem mixin_line_balanced {name : String} (neutral : Neutral name.toList) (depth : Nat) :
    Balanced (mixinLine depth name) := by
  have word : Balanced "pub usingnamespace " := by decide
  have use : Balanced "Methods(Self);" := by decide
  exact (((indent_balanced depth).balanced word).balanced neutral.balanced).balanced use

theorem mixin_spans {name : String} {body : List String} (neutral : Neutral name.toList)
    (spans : Spans body [] []) : Spans (mixin name body) [] [] := by
  have word : Balanced "pub fn " := by decide
  have opens : Leads "Methods(comptime Self: type) type \x7b" [] ['\x7d'] := by decide
  have unused : Spans (if body.isEmpty then ["_ = Self;"] else []) [] [] := by
    split
    · exact spans_line (by decide)
    · exact spans_nil
  have inner : Spans [indent 1 ++ "return opaque \x7b"] ['\x7d'] ['\x7d', '\x7d'] :=
    spans_line (by decide)
  have closes : Spans [indent 1 ++ "\x7d;", "\x7d", ""] ['\x7d', '\x7d'] [] := by
    unfold Spans
    decide
  exact ((((spans_line ((word.balanced neutral.balanced).append opens)).append
    (unused.within _)).append inner).append (spans.within _)).append closes

theorem parent_lines_balanced {parent : TypeName} (neutral : parent.IsNeutral) :
    Spans (parentLines parent current) [] [] := by
  have qualified := @neutral_qualified current _ neutral
  have words : Balanced "pub fn as" ∧ Balanced "(p_self: *Self) *" := by decide
  have opens : Leads " \x7b" [] ['\x7d'] := by decide
  have closes : Leads "\x7d" ['\x7d'] [] := by decide
  have cast : Leads "return @ptrCast(*" [] [')'] := by decide
  have castEnd : Leads ", p_self);" [')'] [] := by decide
  have first := (((((indent_balanced 2).balanced words.1).balanced neutral.2.balanced).balanced
    words.2).balanced qualified.balanced).append opens
  have second := (((indent_balanced 3).append cast).balanced qualified.balanced).append castEnd
  have third := ((indent_balanced 2).leads ['\x7d']).append closes
  exact .cons first (.cons (Balanced.leads second _) (.cons third (.cons blank_balanced
    (.cons (mixin_line_balanced qualified 2) spans_nil))))

variable (current) {functions constructors methods : List Callable} {constants : List Constant}
  {fields : List Field} {signals : List Signal}

theorem functions_span
    (neutral : ∀ reference ∈ functions.flatMap Callable.references, reference.IsNeutral)
    (depth : Nat) : ∀ callable ∈ functions, Spans (callable.functionLines current depth) [] [] :=
  fun callable member =>
    Callable.function_lines_balanced (List.forall_mem_flatMap.mp neutral callable member) depth

theorem constructors_span
    (neutral : ∀ reference ∈ constructors.flatMap Callable.constructorReferences,
      reference.IsNeutral) (depth : Nat) :
    ∀ callable ∈ constructors, Spans (callable.constructorLines current depth) [] [] :=
  fun callable member =>
    Callable.constructor_lines_balanced (List.forall_mem_flatMap.mp neutral callable member) depth

theorem fields_span
    (neutral : ∀ reference ∈ fields.flatMap Field.references, reference.IsNeutral) :
    ∀ field ∈ fields, Spans [field.line current] [] [] :=
  fun field member => spans_line (Field.line_balanced
    (List.forall_mem_flatMap.mp neutral field member))

theorem constants_span (plain : ∀ constant ∈ constants, constant.IsPlain)
    (neutral : ∀ reference ∈ constants.flatMap Constant.references, reference.IsNeutral)
    (depth : Nat) : ∀ constant ∈ constants, Spans (constant.lines current depth) [] [] :=
  fun constant member => Constant.lines_balanced (plain constant member)
    (List.forall_mem_flatMap.mp neutral constant member) depth

theorem signals_span (names : ∀ name ∈ signals.map (·.name), Neutral name.toList)
    (neutral : ∀ reference ∈ signals.flatMap Signal.references, reference.IsNeutral)
    (depth : Nat) : ∀ signal ∈ signals, Spans (signal.lines current depth) [] [] :=
  fun signal member => Signal.lines_balanced (List.forall_mem_map.mp names signal member)
    (List.forall_mem_flatMap.mp neutral signal member) depth

theorem members_span {name : String} (bare : Neutral name.toList)
    (functionTypes : ∀ reference ∈ functions.flatMap Callable.references, reference.IsNeutral)
    (constructorTypes : ∀ reference ∈ constructors.flatMap Callable.constructorReferences,
      reference.IsNeutral)
    (constantTypes : ∀ reference ∈ constants.flatMap Constant.references, reference.IsNeutral)
    (plain : ∀ constant ∈ constants, constant.IsPlain) :
    Spans (group (·.functionLines current 1) functions ++
        group (·.constructorLines current 1) constructors ++
        group (·.lines current 1) constants ++ [mixinLine 1 name] ++ closing) ['\x7d'] [] :=
  ((((spans_group (functions_span current functionTypes 1)).append
    (spans_group (constructors_span current constructorTypes 1))).append
    (spans_group (constants_span current plain constantTypes 1))).append
    (spans_line (mixin_line_balanced bare 1))).within ['\x7d'] |>.append closing_spans

theorem Class.lines_balanced {type : Class} (names : ∀ name ∈ type.bareNames, Neutral name.toList)
    (neutral : ∀ reference ∈ type.references, reference.IsNeutral)
    (plain : ∀ constant ∈ type.constants, constant.IsPlain) :
    Spans (type.lines current) [] [] := by
  obtain ⟨name, signalNames⟩ := List.forall_mem_cons.mp names
  simp only [Class.references, List.forall_mem_append] at neutral
  obtain ⟨⟨⟨⟨⟨⟨fields, functions⟩, constructors⟩, constants⟩, methods⟩, signals⟩, parent⟩ := neutral
  have kind : Balanced "extern struct" := by decide
  have around {body : List String} (inherited : Spans body [] []) :=
    (((opening_spans name kind).append ((spans_group (fields_span current fields)).within _)).append
      (members_span current name functions constructors constants plain)).append
      (mixin_spans name (((spans_flat_map (functions_span current methods 2)).append
        (spans_flat_map (signals_span current signalNames signals 2))).append inherited))
  unfold Class.lines
  cases given : type.parent with
  | none => simpa only [List.append_assoc] using around spans_nil
  | some name =>
      rw [given] at parent
      have inherited := @parent_lines_balanced current name (parent _ List.mem_cons_self name rfl)
      simpa only [List.append_assoc] using around inherited

theorem Interface.lines_balanced {type : Interface}
    (names : ∀ name ∈ type.bareNames, Neutral name.toList)
    (neutral : ∀ reference ∈ type.references, reference.IsNeutral)
    (plain : ∀ constant ∈ type.constants, constant.IsPlain) :
    Spans (type.lines current) [] [] := by
  obtain ⟨name, signalNames⟩ := List.forall_mem_cons.mp names
  simp only [Interface.references, List.forall_mem_append] at neutral
  obtain ⟨⟨⟨⟨functions, constructors⟩, constants⟩, methods⟩, signals⟩ := neutral
  have kind : Balanced "opaque" := by decide
  have spans := ((opening_spans name kind).append
    (members_span current name functions constructors constants plain)).append
    (mixin_spans name ((spans_flat_map (functions_span current methods 2)).append
      (spans_flat_map (signals_span current signalNames signals 2))))
  simpa only [Interface.lines, List.append_assoc] using spans

theorem Compound.lines_balanced {type : Compound} {kind : String}
    (name : Neutral type.name.toList) (balanced : Balanced kind)
    (neutral : ∀ reference ∈ type.references, reference.IsNeutral) :
    Spans (type.lines kind current) [] [] := by
  simp only [Compound.references, List.forall_mem_append] at neutral
  obtain ⟨⟨⟨fields, functions⟩, constructors⟩, methods⟩ := neutral
  have inside := (((spans_group (fields_span current fields)).append
    (spans_group (functions_span current functions 1))).append
    (spans_group (constructors_span current constructors 1))).append
    (spans_flat_map (functions_span current methods 1))
  have spans := ((opening_spans name balanced).append (inside.within _)).append closing_spans
  simpa only [Compound.lines, List.append_assoc] using spans

theorem tail_spans {type : Enumeration} (name : Neutral type.name.toList)
    (neutral : ∀ reference ∈ type.references, reference.IsNeutral) :
    Spans (type.tail current) ['\x7d'] [] := by
  have word : Balanced "const Self = " := by decide
  have line := (((indent_balanced 1).balanced word).balanced name.balanced).balanced
    signs_balanced.2
  have attached : Spans (attachedFunctions type.functions current) [] [] := by
    unfold attachedFunctions
    split
    · exact spans_nil
    · exact .cons blank_balanced (spans_flat_map (functions_span current neutral 2))
  exact (((Spans.cons blank_balanced (spans_line line)).append attached).within _).append closing_spans

theorem width_line_leads {name word : String} (width : TagWidth) (neutral : Neutral name.toList)
    (opens : Leads word [] [')']) :
    Leads ("pub const " ++ name ++ word ++ width.text ++ ") \x7b") [] ['\x7d'] := by
  have text : Balanced width.text := by cases width <;> decide
  have closes : Leads ") \x7b" [')'] ['\x7d'] := by decide
  exact (((pub_const_balanced.balanced neutral.balanced).append opens).balanced text).append closes

theorem Member.lines_balanced (entry : Member) : Balanced entry.line ∧ Balanced entry.flagLine := by
  have ends : Balanced "," ∧ Balanced ": bool = false," := by decide
  have front := (indent_balanced 1).balanced (identifier_balanced entry.name)
  exact ⟨((front.balanced signs_balanced.1).balanced (decimal_balanced entry.value)).balanced
    ends.1, front.balanced ends.2⟩

theorem members_line_span {line : Member → String} (balanced : ∀ entry, Balanced (line entry))
    (members : List Member) : Spans (members.map line) [] [] := by
  induction members with
  | nil => exact spans_nil
  | cons entry rest ih => exact .cons (balanced entry) ih

theorem Enumeration.lines_balanced {type : Enumeration} (name : Neutral type.name.toList)
    (neutral : ∀ reference ∈ type.references, reference.IsNeutral) :
    Spans (type.lines current) [] [] := by
  have opens : Leads " = enum(" [] [')'] := by decide
  have members := members_line_span (fun entry => entry.lines_balanced.1) type.members
  exact ((spans_line (width_line_leads _ name opens)).append (members.within _)).append
    (tail_spans current name neutral)

theorem Enumeration.flag_lines_balanced {type : Enumeration} (name : Neutral type.name.toList)
    (neutral : ∀ reference ∈ type.references, reference.IsNeutral) :
    Spans (type.flagLines current) [] [] := by
  have opens : Leads " = packed struct(" [] [')'] := by decide
  have members := members_line_span (fun entry => entry.lines_balanced.2) type.flags
  have padding : Spans (if 0 < type.padding then
      [indent 1 ++ "_padding: u" ++ decimal type.padding ++ " = 0,"] else []) [] [] := by
    have word : Balanced "_padding: u" ∧ Balanced " = 0," := by decide
    split
    · exact spans_line ((((indent_balanced 1).balanced word.1).balanced
        (decimal_balanced type.padding)).balanced word.2)
    · exact spans_nil
  exact (((spans_line (width_line_leads _ name opens)).append (members.within _)).append
    (padding.within _)).append (tail_spans current name neutral)

end Containers

theorem namespace_balanced {space : Namespace} (plain : space.IsPlain) :
    Spans space.lines [] [] := by
  obtain ⟨names, references, constants⟩ := plain
  simp only [Namespace.bareNames, List.forall_mem_append, List.forall_mem_map] at names
  simp only [Namespace.references, List.forall_mem_append] at references
  simp only [Namespace.allConstants, List.forall_mem_append] at constants
  obtain ⟨⟨⟨⟨⟨⟨⟨aliasNames, classNames⟩, interfaceNames⟩, recordNames⟩, unionNames⟩,
    enumerationNames⟩, flagNames⟩, callbackNames⟩ := names
  obtain ⟨⟨⟨⟨⟨⟨⟨⟨⟨aliases, classes⟩, interfaces⟩, records⟩, unions⟩, enumerations⟩, flags⟩,
    functions⟩, callbacks⟩, values⟩ := references
  obtain ⟨⟨classConstants, interfaceConstants⟩, plain⟩ := constants
  have kinds : Balanced "extern struct" ∧ Balanced "extern union" := by decide
  have aliasLines := spans_flat_map fun entry member => @Alias.lines_balanced space.name entry
    (aliasNames entry member) (List.forall_mem_flatMap.mp aliases entry member)
  have classLines := spans_flat_map fun type member => Class.lines_balanced space.name
    (List.forall_mem_flatMap.mp classNames type member)
    (List.forall_mem_flatMap.mp classes type member)
    (List.forall_mem_flatMap.mp classConstants type member)
  have interfaceLines := spans_flat_map fun type member => Interface.lines_balanced space.name
    (List.forall_mem_flatMap.mp interfaceNames type member)
    (List.forall_mem_flatMap.mp interfaces type member)
    (List.forall_mem_flatMap.mp interfaceConstants type member)
  have recordLines := spans_flat_map fun type member => Compound.lines_balanced space.name
    (recordNames type member) kinds.1 (List.forall_mem_flatMap.mp records type member)
  have unionLines := spans_flat_map fun type member => Compound.lines_balanced space.name
    (unionNames type member) kinds.2 (List.forall_mem_flatMap.mp unions type member)
  have enumerationLines := spans_flat_map fun type member =>
    Enumeration.lines_balanced space.name (enumerationNames type member)
      (List.forall_mem_flatMap.mp enumerations type member)
  have flagLines := spans_flat_map fun type member =>
    Enumeration.flag_lines_balanced space.name (flagNames type member)
      (List.forall_mem_flatMap.mp flags type member)
  have callbackLines := spans_flat_map fun callback member =>
    @Callback.lines_balanced space.name callback (callbackNames callback member)
      (List.forall_mem_flatMap.mp callbacks callback member)
  have functionLines := spans_flat_map (functions_span space.name functions 0)
  have constantLines := spans_flat_map (constants_span space.name plain values 0)
  exact ((((((((aliasLines.append classLines).append interfaceLines).append recordLines).append
    unionLines).append enumerationLines).append flagLines).append functionLines).append
    callbackLines).append constantLines

/-- The module of a namespace is scanned to its end outside of literals, and with every bracket
closed by its own, if what is written of the namespace as it is holds neither brackets nor double
quotes. -/
theorem modules_balanced (space : Namespace) (plain : space.IsPlain) :
    Balanced (space.moduleText []) :=
  namespace_balanced plain

/-- A class with a parent, a signal and a field whose name is made of marks; beside it a constant
and a symbol that would open what nothing closes. -/
def hostileSpace : Namespace where
  name := "A"
  classes := [{
    name := "C"
    parent := some ⟨some "B", "P"⟩
    fields := [⟨"\x7b\"(", .callback { name := "f", parameters := [⟨"]", .variadic, false⟩] }⟩]
    signals := [{ name := "self-sent" }]
    constants := [⟨"[", .simple ⟨some ⟨none, "utf8"⟩, some "gchar*"⟩, "\"(\\"⟩] }]
  bitFields := [⟨"F", [⟨"(", 1⟩], []⟩]
  functions := [{
    name := "\"", symbol := "a_\x7d"
    returns := { type := .array (.array (.simple {}) (some 3)) none } }]
  constants := [⟨"K", .simple ⟨some ⟨none, "gint"⟩, none⟩, "-3"⟩]

theorem modules_balanced_hostile :
    hostileSpace.IsPlain ∧ Balanced (hostileSpace.moduleText []) := by
  have plain : hostileSpace.IsPlain := by
    constructor <;> decide +kernel
  exact ⟨plain, modules_balanced hostileSpace plain⟩

end ZigBindings
