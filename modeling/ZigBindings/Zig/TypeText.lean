import ZigBindings.Repository.Types
import ZigBindings.Text.Case
import ZigBindings.Text.Numeral
import ZigBindings.Zig.Identifier

/-!
# Type texts

How a type reference is written in a module. A module is written for one namespace; a type of
another namespace is reached through the module of that one. The pointers of a simple type are
read off its spelling in C, its base off its name.
-/

namespace ZigBindings.Zig

open ZigBindings.Text

def builtins : List (String × String) :=
  [
    ("gboolean", "bool"),
    ("gchar", "u8"),
    ("guchar", "u8"),
    ("gint8", "i8"),
    ("guint8", "u8"),
    ("gint16", "i16"),
    ("guint16", "u16"),
    ("gint32", "i32"),
    ("guint32", "u32"),
    ("gint64", "i64"),
    ("guint64", "u64"),
    ("gshort", "c_short"),
    ("gushort", "c_ushort"),
    ("gint", "c_int"),
    ("guint", "c_uint"),
    ("glong", "c_long"),
    ("gulong", "c_ulong"),
    ("gsize", "usize"),
    ("gssize", "isize"),
    ("gunichar2", "u16"),
    ("gunichar", "u32"),
    ("gfloat", "f32"),
    ("gdouble", "f64"),
    ("long double", "c_longdouble"),
    ("gpointer", "?*anyopaque"),
    ("gconstpointer", "?*const anyopaque"),
    ("va_list", "@compileError(\"va_list not supported\")"),
    ("none", "void")
  ]

/-- The spellings in C of pointers to anything, which are written without regard to the name. -/
def untypedPointers : List (String × String) :=
  [("gpointer", "?*anyopaque"), ("gconstpointer", "?*const anyopaque")]

def textNames : List String :=
  ["utf8", "filename"]

def unnamedType : String :=
  "@compileError(\"type not implemented\")"

def variadicType : String :=
  "@compileError(\"varargs not implemented\")"

/-- How a type of namespace `space` is reached from the module of namespace `current`. -/
def modulePrefix (space : Option String) (current : String) : String :=
  match space with
  | none => ""
  | some name => if lower name = lower current then "" else lower name ++ "."

/-- The qualifier of what cannot be changed, as it stands in front of a type. -/
def constWord : List Char :=
  ['c', 'o', 'n', 's', 't', ' ']

/-- The pointers of a spelling in C, outermost first. Stars are taken from the end of the
spelling before a leading `const ` is; a `const ` that comes before any star is dropped. -/
def peel (pointer : Bool) : List Char → List Char
  | [] => []
  | c :: rest =>
    if (c :: rest).getLast? = some '*' then
      '*' :: peel true (c :: rest).dropLast
    else if constWord.isPrefixOf (c :: rest) then
      (if pointer then constWord else []) ++ peel pointer ((c :: rest).drop constWord.length)
    else
      []
termination_by spelling => spelling.length
decreasing_by
  · simp only [List.length_dropLast, List.length_cons]; omega
  · simp only [constWord, List.length_drop, List.length_cons, List.length_nil]; omega

/-- The pointers of a type of text: the last star of its spelling, which is the outermost pointer,
is written as one to characters that end in a zero. -/
def peelText (spelling : List Char) : List Char :=
  if spelling.getLast? = some '*' then
    ['[', '*', ':', '0', ']'] ++ peel true spelling.dropLast
  else
    peel false spelling

/-- The name under which a type is looked up: the type of types is defined by one namespace. -/
def resolvedName (name : TypeName) : TypeName :=
  if name.base = "GType" then ⟨some "gobject", "Type"⟩ else name

def isTextName (name : TypeName) : Bool :=
  name.space.isNone && textNames.contains name.base

def baseText (name : TypeName) (current : String) : String :=
  match name.space, builtins.lookup name.base with
  | none, some text => text
  | space, _ => modulePrefix space current ++ name.base

def namedText (name : TypeName) (spelling : String) (current : String) : String :=
  let name := resolvedName name
  if isTextName name then
    let spelling := if spelling = "" then "char*" else spelling
    String.ofList (peelText spelling.toList) ++ baseText ⟨none, "gchar"⟩ current
  else
    String.ofList (peel false spelling.toList) ++ baseText name current

end ZigBindings.Zig

namespace ZigBindings

open ZigBindings.Text ZigBindings.Zig

def SimpleType.text (type : SimpleType) (current : String) : String :=
  let spelling := type.spelling.getD ""
  match untypedPointers.lookup spelling, type.name with
  | some pointer, _ => pointer
  | none, none => unnamedType
  | none, some name => namedText name spelling current

def TypeRef.text (current : String) : TypeRef → String
  | .simple type => type.text current
  | .array element (some size) => "[" ++ decimal size ++ "]" ++ element.text current
  | .array element none => "[*]" ++ element.text current

/-- Whether a type is the text type in which the values of constants are quoted. -/
def TypeRef.isString : TypeRef → Bool
  | .simple ⟨some name, _⟩ => name.base == "utf8"
  | _ => false

def ParameterType.isConst : ParameterType → Bool
  | .value (.simple type) => constWord.isPrefixOf (type.spelling.getD "").toList
  | _ => false

def Parameter.typeText (parameter : Parameter) (current : String) : String :=
  if parameter.isInstance then
    if parameter.type.isConst then "*const Self" else "*Self"
  else
    match parameter.type with
    | .variadic => variadicType
    | .value type => type.text current

def parameterName (name : String) : String :=
  identifier ("p_" ++ name)

def Parameter.text (parameter : Parameter) (current : String) : String :=
  parameterName parameter.name ++ ": " ++ parameter.typeText current

def parameterList (parameters : List Parameter) (current : String) : String :=
  String.intercalate ", " (parameters.map (·.text current))

def ReturnValue.text (returns : ReturnValue) (current : String) : String :=
  if returns.nullable then "?" ++ returns.type.text current else returns.type.text current

/-- The type of a pointer to a function; what it returns is never made optional. -/
def Callback.text (callback : Callback) (current : String) : String :=
  "?*const fn (" ++ parameterList callback.parameters current ++ ") callconv(.C) " ++
    callback.returns.type.text current

def FieldType.text (type : FieldType) (current : String) : String :=
  match type with
  | .value type => type.text current
  | .callback signature => signature.text current

end ZigBindings
