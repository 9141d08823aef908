import Mathlib.Data.List.Basic
import ZigBindings.Proofs.Zig.References

/-!
# The pieces of a module

A line of a module is put together from texts that are the same in every module and from prefixes,
which depend on the module that is being written. Here every line is taken apart, emitter by
emitter: in any module the pieces make up the line, and the prefixes among them are those of the
references of what is written, in order and as often as it has them.
-/

namespace ZigBindings

open ZigBindings.Text ZigBindings.Zig

/-- A part of a line: a text that is the same in every module, or the prefix of a reference. -/
inductive Piece where
  | fixed (text : String)
  | qualifier (reference : Reference)
  deriving DecidableEq

namespace Piece

def text (current : String) : Piece → String
  | .fixed text => text
  | .qualifier reference => reference.prefixText current

def reference? : Piece → Option Reference
  | .fixed _ => none
  | .qualifier reference => some reference

end Piece

/-- The line that pieces make up in the module of a namespace. -/
def lineText (current : String) (line : List Piece) : String :=
  String.join (line.map (Piece.text current))

def lineReferences (line : List Piece) : List Reference :=
  line.filterMap Piece.reference?

/-- Lines that are written without regard to the module, and so without a prefix. -/
def plain (lines : List String) : List (List Piece) :=
  lines.map fun line => [.fixed line]

@[simp]
theorem line_text_nil (current : String) : lineText current [] = "" := by
  simp [lineText]

@[simp]
theorem line_text_fixed (current text : String) (line : List Piece) :
    lineText current (.fixed text :: line) = text ++ lineText current line := by
  simp [lineText, Piece.text]

@[simp]
theorem line_text_qualifier (current : String) (reference : Reference) (line : List Piece) :
    lineText current (.qualifier reference :: line) =
      reference.prefixText current ++ lineText current line := by
  simp [lineText, Piece.text]

@[simp]
theorem line_text_append (current : String) (front back : List Piece) :
    lineText current (front ++ back) = lineText current front ++ lineText current back := by
  simp [lineText]

@[simp]
theorem line_text_intercalate (current separator : String) (lines : List (List Piece)) :
    lineText current (List.intercalate [.fixed separator] lines) =
      String.intercalate separator (lines.map (lineText current)) := by
  induction lines with
  | nil => simp
  | cons line rest ih =>
      cases rest with
      | nil => simp
      | cons next rest =>
          rw [List.intercalate_cons_cons, line_text_append, line_text_append, ih]
          simp

@[simp]
theorem line_references_nil : lineReferences [] = [] := rfl

@[simp]
theorem line_references_fixed (text : String) (line : List Piece) :
    lineReferences (.fixed text :: line) = lineReferences line := rfl

@[simp]
theorem line_references_qualifier (reference : Reference) (line : List Piece) :
    lineReferences (.qualifier reference :: line) = reference :: lineReferences line := rfl

@[simp]
theorem line_references_append (front back : List Piece) :
    lineReferences (front ++ back) = lineReferences front ++ lineReferences back :=
  List.filterMap_append

@[simp]
theorem line_references_intercalate (separator : String) (lines : List (List Piece)) :
    lineReferences (List.intercalate [.fixed separator] lines) = lines.flatMap lineReferences := by
  induction lines with
  | nil => rfl
  | cons line rest ih =>
      cases rest with
      | nil => simp
      | cons next rest =>
          rw [List.intercalate_cons_cons, line_references_append, line_references_append, ih]
          simp

@[simp]
theorem plain_texts (current : String) (lines : List String) :
    (plain lines).map (lineText current) = lines := by
  simp [plain, Function.comp_def]

@[simp]
theorem plain_references (lines : List String) : (plain lines).flatMap lineReferences = [] := by
  simp [plain]

/-! ## The pieces of what is written -/

/-- The text of a type in front of its prefix and behind it. -/
def SimpleType.halves (type : SimpleType) : String × String :=
  let spelling := type.spelling.getD ""
  match untypedPointers.lookup spelling, type.name with
  | some pointer, _ => ("", pointer)
  | none, none => ("", unnamedType)
  | none, some name =>
    let name := resolvedName name
    if isTextName name then
      (String.ofList (peelText (if spelling = "" then "char*" else spelling).toList), "u8")
    else
      (String.ofList (peel false spelling.toList),
        match name.space, builtins.lookup name.base with
        | none, some text => text
        | _, _ => name.base)

def SimpleType.pieces (type : SimpleType) : List Piece :=
  [.fixed type.halves.1, .qualifier (.simple type), .fixed type.halves.2]

def TypeRef.pieces : TypeRef → List Piece
  | .simple type => type.pieces
  | .array element (some size) => .fixed ("[" ++ decimal size ++ "]") :: element.pieces
  | .array element none => .fixed "[*]" :: element.pieces

def Parameter.typePieces (parameter : Parameter) : List Piece :=
  if parameter.isInstance then
    [.fixed (if parameter.type.isConst then "*const Self" else "*Self")]
  else
    match parameter.type with
    | .variadic => [.fixed variadicType]
    | .value type => type.pieces

def Parameter.pieces (parameter : Parameter) : List Piece :=
  .fixed (parameterName parameter.name ++ ": ") :: parameter.typePieces

def parameterPieces (parameters : List Parameter) : List Piece :=
  List.intercalate [.fixed ", "] (parameters.map Parameter.pieces)

def ReturnValue.pieces (returns : ReturnValue) : List Piece :=
  .fixed (if returns.nullable then "?" else "") :: returns.type.pieces

def Callback.pieces (callback : Callback) : List Piece :=
  .fixed "?*const fn (" :: parameterPieces callback.parameters ++
    .fixed ") callconv(.C) " :: callback.returns.type.pieces

def FieldType.pieces : FieldType → List Piece
  | .value type => type.pieces
  | .callback signature => signature.pieces

def Field.pieces (field : Field) : List Piece :=
  .fixed (indent 1 ++ identifier field.name ++ ": ") :: field.type.pieces ++ [.fixed ","]

def Callable.pieces (callable : Callable) (returns : List Piece) (depth : Nat) :
    List (List Piece) :=
  let symbol := identifier callable.symbol
  let name := identifier (String.ofList (camelCase ['_'] callable.name.toList))
  (.fixed (indent depth ++ "extern fn " ++ symbol ++ "(") :: parameterPieces callable.parameters ++
    .fixed ") callconv(.C) " :: returns ++ [.fixed ";"]) ::
    plain ["", indent depth ++ "pub const " ++ name ++ " = " ++ symbol ++ ";", ""]

def Callable.functionPieces (depth : Nat) (callable : Callable) : List (List Piece) :=
  if callable.movedTo.isSome then [] else callable.pieces callable.returns.pieces depth

def Callable.constructorPieces (depth : Nat) (callable : Callable) : List (List Piece) :=
  if callable.movedTo.isSome then [] else callable.pieces [.fixed "*Self"] depth

def Signal.callbackPieces (signal : Signal) : List Piece :=
  .fixed "*const fn (" ::
    List.intercalate [.fixed ", "]
      ([[.fixed "*Self"]] ++ signal.parameters.map Parameter.pieces ++ [[.fixed "?*anyopaque"]]) ++
    .fixed ") callconv(.C) " :: signal.returns.pieces

def Signal.pieces (depth : Nat) (signal : Signal) : List (List Piece) :=
  [
    .fixed (indent depth ++ "pub fn " ++ signal.connectName ++ "(p_self: *Self, p_callback: ") ::
      signal.callbackPieces ++ [.fixed ", p_data: ?*anyopaque) c_ulong \x7b"],
    [
      .fixed (indent (depth + 1) ++ "return "),
      .qualifier .signal,
      .fixed ("signalConnectData(p_self, " ++ literal signal.name ++ ", @ptrCast("),
      .qualifier .signal,
      .fixed "Callback, p_callback), p_data, null, .\x7b\x7d);"
    ]
  ] ++ plain [indent depth ++ "\x7d", ""]

def Constant.pieces (depth : Nat) (constant : Constant) : List (List Piece) :=
  (.fixed (indent depth ++ "pub const " ++ identifier constant.name ++ ": ") ::
    constant.type.pieces ++ [.fixed (" = " ++ constant.valueText ++ ";")]) :: plain [""]

def Alias.pieces (entry : Alias) : List (List Piece) :=
  (.fixed ("pub const " ++ entry.name ++ " = ") :: entry.type.pieces ++ [.fixed ";"]) :: plain [""]

def Callback.declaredPieces (callback : Callback) : List (List Piece) :=
  if callback.name = selfReferringCallback then
    plain
      [
        "pub const ClosureNotify = ?*const fn (p_data: ?*anyopaque, p_closure: *anyopaque) " ++
          "callconv(.C) void;",
        ""
      ]
  else
    (.fixed ("pub const " ++ callback.name ++ " = ") :: callback.pieces ++ [.fixed ";"]) ::
      plain [""]

def groupPieces {α : Type} (pieces : α → List (List Piece)) (items : List α) :
    List (List Piece) :=
  items.flatMap pieces ++ if items.isEmpty then [] else plain [""]

def mixinPieces (name : String) (body : List (List Piece)) : List (List Piece) :=
  plain ["pub fn " ++ name ++ "Methods(comptime Self: type) type \x7b"] ++
    (if body.isEmpty then plain ["_ = Self;"] else []) ++
    plain [indent 1 ++ "return opaque \x7b"] ++ body ++
    plain [indent 1 ++ "\x7d;", "\x7d", ""]

/-- The type of a parent is written three times. -/
def parentPieces (parent : TypeName) : List (List Piece) :=
  [
    [.fixed (indent 2 ++ "pub fn as" ++ parent.base ++ "(p_self: *Self) *"),
      .qualifier (.parent parent), .fixed (parent.base ++ " \x7b")],
    [.fixed (indent 3 ++ "return @ptrCast(*"),
      .qualifier (.parent parent), .fixed (parent.base ++ ", p_self);")]
  ] ++ plain [indent 2 ++ "\x7d", ""] ++
  [
    [.fixed (indent 2 ++ "pub usingnamespace "),
      .qualifier (.parent parent), .fixed (parent.base ++ "Methods(Self);")]
  ]

def Class.pieces (type : Class) : List (List Piece) :=
  plain (opening type.name "extern struct") ++
    groupPieces (fun field => [field.pieces]) type.fields ++
    groupPieces (Callable.functionPieces 1) type.functions ++
    groupPieces (Callable.constructorPieces 1) type.constructors ++
    groupPieces (Constant.pieces 1) type.constants ++
    plain ([mixinLine 1 type.name] ++ closing) ++
    mixinPieces type.name
      (type.methods.flatMap (Callable.functionPieces 2) ++
        type.signals.flatMap (Signal.pieces 2) ++
        type.parent.toList.flatMap parentPieces)

def Interface.pieces (type : Interface) : List (List Piece) :=
  plain (opening type.name "opaque") ++
    groupPieces (Callable.functionPieces 1) type.functions ++
    groupPieces (Callable.constructorPieces 1) type.constructors ++
    groupPieces (Constant.pieces 1) type.constants ++
    plain ([mixinLine 1 type.name] ++ closing) ++
    mixinPieces type.name
      (type.methods.flatMap (Callable.functionPieces 2) ++
        type.signals.flatMap (Signal.pieces 2))

def Compound.pieces (kind : String) (type : Compound) : List (List Piece) :=
  plain (opening type.name kind) ++
    groupPieces (fun field => [field.pieces]) type.fields ++
    groupPieces (Callable.functionPieces 1) type.functions ++
    groupPieces (Callable.constructorPieces 1) type.constructors ++
    type.methods.flatMap (Callable.functionPieces 1) ++
    plain closing

def attachedPieces (functions : List Callable) : List (List Piece) :=
  if functions.isEmpty then []
  else plain [""] ++ functions.flatMap (Callable.functionPieces 2)

def Enumeration.tailPieces (type : Enumeration) : List (List Piece) :=
  plain ["", indent 1 ++ "const Self = " ++ type.name ++ ";"] ++
    attachedPieces type.functions ++ plain closing

def Enumeration.pieces (type : Enumeration) : List (List Piece) :=
  plain (["pub const " ++ type.name ++ " = enum(" ++ (tagWidth type.members).text ++ ") \x7b"] ++
    type.members.map Member.line) ++
    type.tailPieces

def Enumeration.flagPieces (type : Enumeration) : List (List Piece) :=
  plain (["pub const " ++ type.name ++ " = packed struct(" ++ (tagWidth type.members).text ++
      ") \x7b"] ++
    type.flags.map Member.flagLine ++
    (if 0 < type.padding then [indent 1 ++ "_padding: u" ++ decimal type.padding ++ " = 0,"]
      else [])) ++
    type.tailPieces

/-- The pieces of the declarations of a namespace, line by line. -/
def Namespace.pieces (space : Namespace) : List (List Piece) :=
  space.aliases.flatMap Alias.pieces ++
    space.classes.flatMap Class.pieces ++
    space.interfaces.flatMap Interface.pieces ++
    space.records.flatMap (Compound.pieces "extern struct") ++
    space.unions.flatMap (Compound.pieces "extern union") ++
    space.enumerations.flatMap Enumeration.pieces ++
    space.bitFields.flatMap Enumeration.flagPieces ++
    space.functions.flatMap (Callable.functionPieces 0) ++
    space.callbacks.flatMap Callback.declaredPieces ++
    space.constants.flatMap (Constant.pieces 0)

/-! ## The text and the references of the pieces -/

/-- A text is made of pieces whatever module is written, and these refer to what is listed. -/
structure Made (pieces : List Piece) (references : List Reference) (text : String → String) :
    Prop where
  text : ∀ current, lineText current pieces = text current
  references : lineReferences pieces = references

/-- The same of lines. -/
structure MadeLines (pieces : List (List Piece)) (references : List Reference)
    (lines : String → List String) : Prop where
  lines : ∀ current, pieces.map (lineText current) = lines current
  references : pieces.flatMap lineReferences = references

namespace MadeLines

variable {pieces more : List (List Piece)} {references others : List Reference}
  {lines rest : String → List String}

theorem of_plain (lines : List String) : MadeLines (plain lines) [] fun _ => lines :=
  ⟨fun current => plain_texts current lines, plain_references lines⟩

theorem append (made : MadeLines pieces references lines) (made' : MadeLines more others rest) :
    MadeLines (pieces ++ more) (references ++ others) fun current =>
      lines current ++ rest current :=
  ⟨fun current => by rw [List.map_append, made.lines, made'.lines],
    by rw [List.flatMap_append, made.references, made'.references]⟩

theorem append_plain (made : MadeLines pieces references lines) (texts : List String) :
    MadeLines (pieces ++ plain texts) references fun current => lines current ++ texts := by
  simpa using made.append (of_plain texts)

theorem plain_append (texts : List String) (made : MadeLines pieces references lines) :
    MadeLines (plain texts ++ pieces) references fun current => texts ++ lines current :=
  (of_plain texts).append made

theorem cons_plain {line : List Piece} {text : String → String}
    (made : Made line references text) (texts : List String) :
    MadeLines (line :: plain texts) references fun current => text current :: texts := by
  refine ⟨fun current => ?_, ?_⟩
  · rw [List.map_cons, made.text, plain_texts]
  · rw [List.flatMap_cons, made.references, plain_references, List.append_nil]

theorem flat_map {α : Type} {pieces : α → List (List Piece)} {references : α → List Reference}
    {lines : α → String → List String} (made : ∀ item, MadeLines (pieces item) (references item)
      (lines item)) (items : List α) :
    MadeLines (items.flatMap pieces) (items.flatMap references) fun current =>
      items.flatMap (lines · current) := by
  refine ⟨fun current => ?_, ?_⟩
  · simp only [List.map_flatMap, (made _).lines]
  · simp only [List.flatMap_assoc, (made _).references]

theorem group {α : Type} {pieces : α → List (List Piece)} {references : α → List Reference}
    {lines : α → String → List String} (made : ∀ item, MadeLines (pieces item) (references item)
      (lines item)) (items : List α) :
    MadeLines (groupPieces pieces items) (items.flatMap references) fun current =>
      ZigBindings.group (lines · current) items := by
  cases items with
  | nil => exact ⟨fun _ => rfl, rfl⟩
  | cons item rest => exact (flat_map made (item :: rest)).append_plain [""]

/-- A mixin tells whether it has a body, and the pieces have as many lines as the text. -/
theorem mixin (made : MadeLines pieces references lines) (name : String) :
    MadeLines (mixinPieces name pieces) references fun current =>
      ZigBindings.mixin name (lines current) := by
  have empty (current : String) : (lines current).isEmpty = pieces.isEmpty := by
    rw [← made.lines, List.isEmpty_map]
  refine ⟨fun current => ?_, ?_⟩
  · cases none : pieces.isEmpty <;>
      simp [mixinPieces, ZigBindings.mixin, empty, none, made.lines]
  · cases none : pieces.isEmpty <;>
      simp [mixinPieces, none, made.references]

end MadeLines

/-- Only a type that is not looked up as text has a prefix: the name of a text type is not
qualified. -/
theorem SimpleType.made (type : SimpleType) : Made type.pieces [.simple type] type.text := by
  refine ⟨fun current => ?_, rfl⟩
  obtain ⟨name, spelling⟩ := type
  simp only [pieces, halves, text, Reference.prefixText, Reference.space?, line_text_fixed,
    line_text_qualifier, line_text_nil, String.append_empty]
  cases pointer : untypedPointers.lookup (spelling.getD "") with
  | some text => simp [modulePrefix]
  | none =>
      cases name with
      | none => simp [modulePrefix]
      | some name =>
          simp only [namedText]
          by_cases isText : isTextName (resolvedName name)
          · have unqualified : (resolvedName name).space = none := by
              simp only [isTextName, Bool.and_eq_true] at isText
              exact Option.isNone_iff_eq_none.mp isText.1
            have character : baseText ⟨none, "gchar"⟩ current = "u8" := by rfl
            simp [isText, unqualified, character, modulePrefix]
          · simp only [isText, baseText]
            cases space : (resolvedName name).space with
            | some space => simp
            | none =>
                cases builtins.lookup (resolvedName name).base <;> simp [modulePrefix]

theorem TypeRef.made (type : TypeRef) :
    Made type.pieces [type.reference] (type.text ·) := by
  induction type with
  | simple type => exact type.made
  | array element size ih =>
      cases size with
      | none => exact ⟨fun current => by simp [pieces, text, ih.text], ih.references⟩
      | some size => exact ⟨fun current => by simp [pieces, text, ih.text], ih.references⟩

theorem Parameter.made (parameter : Parameter) :
    Made parameter.pieces parameter.references parameter.text := by
  unfold pieces typePieces references text typeText
  by_cases isInstance : parameter.isInstance
  · exact ⟨fun current => by simp [isInstance], by simp [isInstance]⟩
  · cases parameter.type with
    | variadic => exact ⟨fun current => by simp [isInstance], by simp [isInstance]⟩
    | value type =>
        exact ⟨fun current => by simp [isInstance, type.made.text],
          by simp [isInstance, type.made.references]⟩

theorem parameters_made (parameters : List Parameter) :
    Made (parameterPieces parameters) (parameters.flatMap Parameter.references)
      (parameterList parameters) := by
  refine ⟨fun current => ?_, ?_⟩
  · simp [parameterPieces, parameterList, Function.comp_def, (Parameter.made _).text]
  · simp [parameterPieces, List.flatMap_map, (Parameter.made _).references]

theorem ReturnValue.made (returns : ReturnValue) :
    Made returns.pieces [returns.type.reference] returns.text := by
  refine ⟨fun current => ?_, returns.type.made.references⟩
  cases nullable : returns.nullable <;> simp [pieces, text, nullable, returns.type.made.text]

theorem Callback.made (callback : Callback) :
    Made callback.pieces callback.references callback.text where
  text current := by
    simp [pieces, text, (parameters_made _).text, (TypeRef.made _).text, String.append_assoc]
  references := by
    simp [pieces, references, (parameters_made _).references, (TypeRef.made _).references]

theorem FieldType.made (type : FieldType) : Made type.pieces type.references type.text := by
  cases type with
  | value type => exact type.made
  | callback signature => exact signature.made

theorem Field.made (field : Field) :
    MadeLines [field.pieces] field.references fun current => [field.line current] where
  lines current := by
    simp [pieces, line, field.type.made.text, String.append_assoc]
  references := by simp [pieces, references, field.type.made.references]

theorem Callable.made (callable : Callable) {pieces : List Piece} {references : List Reference}
    {returns : String → String} (made : Made pieces references returns) (depth : Nat) :
    MadeLines (callable.pieces pieces depth)
      (callable.parameters.flatMap Parameter.references ++ references)
      fun current => callable.lines (returns current) current depth := by
  refine .cons_plain ⟨fun current => ?_, ?_⟩ _
  · simp [(parameters_made _).text, made.text, String.append_assoc]
  · simp [(parameters_made _).references, made.references]

theorem Callable.function_made (depth : Nat) (callable : Callable) :
    MadeLines (callable.functionPieces depth) callable.references
      (callable.functionLines · depth) := by
  unfold functionPieces references functionLines
  by_cases moved : callable.movedTo.isSome
  · simpa only [if_pos moved] using .of_plain []
  · simpa only [if_neg moved] using callable.made callable.returns.made depth

theorem Callable.constructor_made (depth : Nat) (callable : Callable) :
    MadeLines (callable.constructorPieces depth) callable.constructorReferences
      (callable.constructorLines · depth) := by
  have self : Made [.fixed "*Self"] [] fun _ => "*Self" := ⟨fun _ => by simp, rfl⟩
  unfold constructorPieces constructorReferences constructorLines
  by_cases moved : callable.movedTo.isSome
  · simpa only [if_pos moved] using .of_plain []
  · simpa only [if_neg moved, List.append_nil] using callable.made self depth

theorem Signal.callback_made (signal : Signal) :
    Made signal.callbackPieces
      (signal.parameters.flatMap Parameter.references ++ [signal.returns.type.reference])
      signal.callbackText where
  text current := by
    have own : lineText current [.fixed "*Self"] = "*Self" := by simp
    have data : lineText current [.fixed "?*anyopaque"] = "?*anyopaque" := by simp
    simp only [callbackPieces, callbackText, List.cons_append, line_text_fixed, line_text_append,
      line_text_intercalate, List.map_append, List.map_cons, List.map_nil, List.map_map,
      Function.comp_def, own, data, (Parameter.made _).text, signal.returns.made.text,
      List.nil_append, String.append_assoc]
  references := by
    simp [callbackPieces, List.flatMap_map, (Parameter.made _).references,
      signal.returns.made.references]

theorem Signal.made (depth : Nat) (signal : Signal) :
    MadeLines (signal.pieces depth) signal.references (signal.lines · depth) where
  lines current := by
    simp [pieces, lines, signal.callback_made.text, Reference.prefixText, Reference.space?,
      String.append_assoc]
  references := by simp [pieces, references, signal.callback_made.references]

theorem Constant.made (depth : Nat) (constant : Constant) :
    MadeLines (constant.pieces depth) constant.references (constant.lines · depth) := by
  refine .cons_plain ⟨fun current => ?_, ?_⟩ [""]
  · simp [constant.type.made.text, String.append_assoc]
  · simp [constant.type.made.references, references]

theorem Alias.made (entry : Alias) : MadeLines entry.pieces entry.references entry.lines := by
  refine .cons_plain ⟨fun current => ?_, ?_⟩ [""]
  · simp [entry.type.made.text, String.append_assoc]
  · simp [entry.type.made.references, references]

theorem Callback.declared_made (callback : Callback) :
    MadeLines callback.declaredPieces callback.declaredReferences callback.lines := by
  unfold declaredPieces declaredReferences
  by_cases fixed : callback.name = selfReferringCallback
  · rw [if_pos fixed, if_pos fixed]
    refine ⟨fun current => ?_, plain_references _⟩
    rw [plain_texts, lines, if_pos fixed]
  · rw [if_neg fixed, if_neg fixed]
    refine ⟨fun current => ?_, ?_⟩
    · rw [lines, if_neg fixed]
      simp [callback.made.text, String.append_assoc]
    · simp [callback.made.references]

theorem parent_made (parent : TypeName) :
    MadeLines (parentPieces parent) [.parent parent, .parent parent, .parent parent]
      (parentLines parent) where
  lines current := by
    simp [parentPieces, parentLines, mixinLine, Reference.prefixText, Reference.space?,
      String.append_assoc]
  references := by simp [parentPieces]

/-- What stands in a type whose methods stand elsewhere, up to the end of the type. -/
theorem members_made (name : String) (functions constructors : List Callable)
    (constants : List Constant) :
    MadeLines
      (groupPieces (Callable.functionPieces 1) functions ++
        groupPieces (Callable.constructorPieces 1) constructors ++
        groupPieces (Constant.pieces 1) constants ++ plain ([mixinLine 1 name] ++ closing))
      (functions.flatMap Callable.references ++
        constructors.flatMap Callable.constructorReferences ++
        constants.flatMap Constant.references)
      fun current =>
        group (·.functionLines current 1) functions ++
          group (·.constructorLines current 1) constructors ++
          group (·.lines current 1) constants ++ ([mixinLine 1 name] ++ closing) := by
  have functions := MadeLines.group (Callable.function_made 1) functions
  have constructors := MadeLines.group (Callable.constructor_made 1) constructors
  have constants := MadeLines.group (Constant.made 1) constants
  exact ((functions.append constructors).append constants).append_plain _

theorem methods_made (methods : List Callable) (signals : List Signal) :
    MadeLines (methods.flatMap (Callable.functionPieces 2) ++ signals.flatMap (Signal.pieces 2))
      (methods.flatMap Callable.references ++ signals.flatMap Signal.references)
      fun current =>
        methods.flatMap (·.functionLines current 2) ++ signals.flatMap (·.lines current 2) :=
  (MadeLines.flat_map (Callable.function_made 2) methods).append
    (MadeLines.flat_map (Signal.made 2) signals)

theorem Class.made (type : Class) : MadeLines type.pieces type.references type.lines := by
  have fields := MadeLines.group Field.made type.fields
  have members := members_made type.name type.functions type.constructors type.constants
  have parents := MadeLines.flat_map parent_made type.parent.toList
  have whole := ((fields.plain_append (opening type.name "extern struct")).append members).append
    (((methods_made type.methods type.signals).append parents).mixin type.name)
  refine ⟨fun current => ?_, ?_⟩
  · cases parent : type.parent <;> simpa [lines, pieces, parent] using whole.lines current
  · simpa [references, pieces] using whole.references

theorem Interface.made (type : Interface) : MadeLines type.pieces type.references type.lines := by
  have members := members_made type.name type.functions type.constructors type.constants
  have whole := (members.plain_append (opening type.name "opaque")).append
    ((methods_made type.methods type.signals).mixin type.name)
  refine ⟨fun current => ?_, ?_⟩
  · simpa [lines, pieces] using whole.lines current
  · simpa [references, pieces] using whole.references

theorem Compound.made (kind : String) (type : Compound) :
    MadeLines (type.pieces kind) type.references (type.lines kind) := by
  have fields := MadeLines.group Field.made type.fields
  have functions := MadeLines.group (Callable.function_made 1) type.functions
  have constructors := MadeLines.group (Callable.constructor_made 1) type.constructors
  have methods := MadeLines.flat_map (Callable.function_made 1) type.methods
  exact ((((fields.plain_append (opening type.name kind)).append functions).append
    constructors).append methods).append_plain closing

theorem attached_made (functions : List Callable) :
    MadeLines (attachedPieces functions) (functions.flatMap Callable.references)
      (attachedFunctions functions) := by
  cases functions with
  | nil => exact .of_plain []
  | cons function rest =>
      exact (MadeLines.flat_map (Callable.function_made 2) (function :: rest)).plain_append [""]

theorem Enumeration.tail_made (type : Enumeration) :
    MadeLines type.tailPieces type.references type.tail :=
  ((attached_made type.functions).plain_append _).append_plain closing

theorem Enumeration.made (type : Enumeration) :
    MadeLines type.pieces type.references type.lines :=
  type.tail_made.plain_append _

theorem Enumeration.flags_made (type : Enumeration) :
    MadeLines type.flagPieces type.references type.flagLines :=
  type.tail_made.plain_append _

/-- In any module, the declarations of a namespace are made of its pieces, and the prefixes among
these are of what it refers to, in order. -/
theorem Namespace.made (space : Namespace) :
    MadeLines space.pieces space.references fun current =>
      { space with name := current }.lines := by
  have aliases := MadeLines.flat_map Alias.made space.aliases
  have classes := MadeLines.flat_map Class.made space.classes
  have interfaces := MadeLines.flat_map Interface.made space.interfaces
  have records := MadeLines.flat_map (Compound.made "extern struct") space.records
  have unions := MadeLines.flat_map (Compound.made "extern union") space.unions
  have enumerations := MadeLines.flat_map Enumeration.made space.enumerations
  have bitFields := MadeLines.flat_map Enumeration.flags_made space.bitFields
  have functions := MadeLines.flat_map (Callable.function_made 0) space.functions
  have callbacks := MadeLines.flat_map Callback.declared_made space.callbacks
  have constants := MadeLines.flat_map (Constant.made 0) space.constants
  exact ((((((((aliases.append classes).append interfaces).append records).append unions).append
    enumerations).append bitFields).append functions).append callbacks).append constants

theorem Namespace.reference_of_piece {space : Namespace} {line : List Piece}
    {reference : Reference} (listed : line ∈ space.pieces)
    (used : .qualifier reference ∈ line) : reference ∈ space.references := by
  rw [← space.made.references]
  exact List.mem_flatMap.mpr ⟨line, listed, List.mem_filterMap.mpr ⟨_, used, rfl⟩⟩

end ZigBindings
