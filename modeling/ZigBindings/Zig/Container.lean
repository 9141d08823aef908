import ZigBindings.Zig.Declaration

/-!
# Types with declarations inside

The lines of classes, interfaces, records, unions, enumerations and sets of flags. The methods of
a class or interface stand outside its type, in a function of the type they are called on, so that
a type can take over the methods of its parent.
-/

namespace ZigBindings

open ZigBindings.Text ZigBindings.Zig

/-- Declarations of one kind, with a blank line after them if there are any. -/
def group {α : Type} (lines : α → List String) (items : List α) : List String :=
  items.flatMap lines ++ if items.isEmpty then [] else [""]

def opening (name kind : String) : List String :=
  [
    "pub const " ++ name ++ " = " ++ kind ++ " \x7b",
    indent 1 ++ "const Self = " ++ name ++ ";",
    ""
  ]

def closing : List String :=
  ["\x7d;", ""]

def mixinLine (depth : Nat) (name : String) : String :=
  indent depth ++ "pub usingnamespace " ++ name ++ "Methods(Self);"

def mixin (name : String) (body : List String) : List String :=
  ["pub fn " ++ name ++ "Methods(comptime Self: type) type \x7b"] ++
    (if body.isEmpty then ["_ = Self;"] else []) ++
    [indent 1 ++ "return opaque \x7b"] ++ body ++
    [indent 1 ++ "\x7d;", "\x7d", ""]

/-- The conversion of a value to its parent type, and the methods of that type. -/
def parentLines (parent : TypeName) (current : String) : List String :=
  let name := modulePrefix parent.space current ++ parent.base
  [
    indent 2 ++ "pub fn as" ++ parent.base ++ "(p_self: *Self) *" ++ name ++ " \x7b",
    indent 3 ++ "return @ptrCast(*" ++ name ++ ", p_self);",
    indent 2 ++ "\x7d",
    "",
    mixinLine 2 name
  ]

def Class.lines (type : Class) (current : String) : List String :=
  opening type.name "extern struct" ++
    group (fun field => [field.line current]) type.fields ++
    group (·.functionLines current 1) type.functions ++
    group (·.constructorLines current 1) type.constructors ++
    group (·.lines current 1) type.constants ++
    [mixinLine 1 type.name] ++ closing ++
    mixin type.name
      (type.methods.flatMap (·.functionLines current 2) ++
        type.signals.flatMap (·.lines current 2) ++
        (match type.parent with
          | some parent => parentLines parent current
          | none => []))

def Interface.lines (type : Interface) (current : String) : List String :=
  opening type.name "opaque" ++
    group (·.functionLines current 1) type.functions ++
    group (·.constructorLines current 1) type.constructors ++
    group (·.lines current 1) type.constants ++
    [mixinLine 1 type.name] ++ closing ++
    mixin type.name
      (type.methods.flatMap (·.functionLines current 2) ++
        type.signals.flatMap (·.lines current 2))

def Compound.lines (type : Compound) (kind : String) (current : String) : List String :=
  opening type.name kind ++
    group (fun field => [field.line current]) type.fields ++
    group (·.functionLines current 1) type.functions ++
    group (·.constructorLines current 1) type.constructors ++
    type.methods.flatMap (·.functionLines current 1) ++
    closing

inductive TagWidth where
  | narrow
  | wide
  deriving DecidableEq

def TagWidth.bits : TagWidth → Nat
  | .narrow => 32
  | .wide => 64

def TagWidth.text : TagWidth → String
  | .narrow => "i32"
  | .wide => "i64"

/-- The width for the given members: wide from 2147483648, the 31st power of two, on. -/
def tagWidth (members : List Member) : TagWidth :=
  if members.any fun entry => 2147483648 ≤ entry.value then .wide else .narrow

def attachedFunctions (functions : List Callable) (current : String) : List String :=
  if functions.isEmpty then []
  else "" :: functions.flatMap (·.functionLines current 2)

def Enumeration.tail (type : Enumeration) (current : String) : List String :=
  ["", indent 1 ++ "const Self = " ++ type.name ++ ";"] ++
    attachedFunctions type.functions current ++ closing

def Member.line (entry : Member) : String :=
  indent 1 ++ identifier entry.name ++ " = " ++ decimal entry.value ++ ","

def Enumeration.lines (type : Enumeration) (current : String) : List String :=
  ["pub const " ++ type.name ++ " = enum(" ++ (tagWidth type.members).text ++ ") \x7b"] ++
    type.members.map Member.line ++
    type.tail current

def Enumeration.flags (type : Enumeration) : List Member :=
  type.members.filter fun entry => 0 < entry.value

def Member.flagLine (entry : Member) : String :=
  indent 1 ++ identifier entry.name ++ ": bool = false,"

/-- The bits that the flags leave over; negative where there are more flags than bits. -/
def Enumeration.padding (type : Enumeration) : Int :=
  (tagWidth type.members).bits - type.flags.length

/-- A set of flags: one bit for each positive member in order, then the bits left over. -/
def Enumeration.flagLines (type : Enumeration) (current : String) : List String :=
  ["pub const " ++ type.name ++ " = packed struct(" ++ (tagWidth type.members).text ++ ") \x7b"] ++
    type.flags.map Member.flagLine ++
    (if 0 < type.padding then [indent 1 ++ "_padding: u" ++ decimal type.padding ++ " = 0,"]
      else []) ++
    type.tail current

end ZigBindings
