import ZigBindings.Zig.Literal

/-!
# Identifiers

A name can be written as it is when it is a word of ASCII letters, digits and underscores that does
not start with a digit, and that the language does not use itself: as a keyword, as the name of a
primitive type or value, or as an integer type of some width. Any other name is written as a
quoted identifier.
-/

namespace ZigBindings.Zig

def keywords : List String :=
  [
    "addrspace", "align", "allowzero", "and", "anyframe", "anytype", "asm", "async", "await",
    "break", "callconv", "catch", "comptime", "const", "continue", "defer", "else", "enum",
    "errdefer", "error", "export", "extern", "fn", "for", "if", "inline", "linksection",
    "noalias", "noinline", "nosuspend", "opaque", "or", "orelse", "packed", "pub", "resume",
    "return", "struct", "suspend", "switch", "test", "threadlocal", "try", "union",
    "unreachable", "usingnamespace", "var", "volatile", "while"
  ]

def primitives : List String :=
  [
    "anyerror", "anyopaque", "bool", "c_char", "c_int", "c_long", "c_longdouble", "c_longlong",
    "c_short", "c_uint", "c_ulong", "c_ulonglong", "c_ushort", "comptime_float", "comptime_int",
    "f16", "f32", "f64", "f80", "f128", "false", "isize", "noreturn", "null", "true", "type",
    "undefined", "usize", "void"
  ]

def isWordStart (c : Char) : Bool :=
  c.isAlpha || c = '_'

def isWordChar (c : Char) : Bool :=
  c.isAlphanum || c = '_'

def isWord : List Char → Bool
  | [] => false
  | c :: rest => isWordStart c && rest.all isWordChar

/-- Whether a text is a number without a leading zero. -/
def isWidth : List Char → Bool
  | [] => false
  | ['0'] => true
  | c :: rest => c.isDigit && c != '0' && rest.all Char.isDigit

def isIntegerType : List Char → Bool
  | 'i' :: width => isWidth width
  | 'u' :: width => isWidth width
  | _ => false

def isBareIdentifier (name : String) : Bool :=
  name != "_" && isWord name.toList && !keywords.contains name && !primitives.contains name &&
    !isIntegerType name.toList

def identifier (name : String) : String :=
  if isBareIdentifier name then name else "@" ++ literal name

theorem identifier_of_bare {name : String} (bare : isBareIdentifier name = true) :
    identifier name = name := by
  simp [identifier, bare]

theorem identifier_of_not_bare {name : String} (quoted : isBareIdentifier name = false) :
    identifier name = "@" ++ literal name := by
  simp [identifier, quoted]

end ZigBindings.Zig
