import ZigBindings.Repository.Declarations
import ZigBindings.Text.Words
import ZigBindings.Zig.TypeText

/-!
# Single declarations

The lines of one declaration: an extern function with its alias, the connecting function of a
signal, a field, a constant, an alias, a callback. Each ends with a blank line where the module
separates declarations.
-/

namespace ZigBindings

open ZigBindings.Text ZigBindings.Zig

def indent (depth : Nat) : String :=
  String.ofList (List.replicate (4 * depth) ' ')

/-- An extern function under its symbol, and its alias under the camel case of its name. -/
def Callable.lines (callable : Callable) (returns : String) (current : String) (depth : Nat) :
    List String :=
  let symbol := identifier callable.symbol
  let name := identifier (String.ofList (camelCase ['_'] callable.name.toList))
  [
    indent depth ++ "extern fn " ++ symbol ++ "(" ++ parameterList callable.parameters current ++
      ") callconv(.C) " ++ returns ++ ";",
    "",
    indent depth ++ "pub const " ++ name ++ " = " ++ symbol ++ ";",
    ""
  ]

def Callable.functionLines (callable : Callable) (current : String) (depth : Nat) : List String :=
  if callable.movedTo.isSome then []
  else callable.lines (callable.returns.text current) current depth

/-- A constructor, which returns the type it belongs to whatever the document says. -/
def Callable.constructorLines (callable : Callable) (current : String) (depth : Nat) :
    List String :=
  if callable.movedTo.isSome then []
  else callable.lines "*Self" current depth

def Signal.callbackText (signal : Signal) (current : String) : String :=
  let parameters := signal.parameters.map (·.text current)
  "*const fn (" ++ String.intercalate ", " (["*Self"] ++ parameters ++ ["?*anyopaque"]) ++
    ") callconv(.C) " ++ signal.returns.text current

def Signal.connectName (signal : Signal) : String :=
  "connect" ++ String.ofList (pascalCase ['-'] signal.name.toList)

def Signal.lines (signal : Signal) (current : String) (depth : Nat) : List String :=
  let objects := modulePrefix (some "gobject") current
  [
    indent depth ++ "pub fn " ++ signal.connectName ++ "(p_self: *Self, p_callback: " ++
      signal.callbackText current ++ ", p_data: ?*anyopaque) c_ulong \x7b",
    indent (depth + 1) ++ "return " ++ objects ++ "signalConnectData(p_self, " ++
      literal signal.name ++ ", @ptrCast(" ++ objects ++ "Callback, p_callback), p_data, null, " ++
      ".\x7b\x7d);",
    indent depth ++ "\x7d",
    ""
  ]

def Field.line (field : Field) (current : String) : String :=
  indent 1 ++ identifier field.name ++ ": " ++ field.type.text current ++ ","

/-- The value of a constant: a literal for text, and as the document gives it otherwise. -/
def Constant.valueText (constant : Constant) : String :=
  if constant.type.isString then literal constant.value else constant.value

def Constant.lines (constant : Constant) (current : String) (depth : Nat) : List String :=
  [
    indent depth ++ "pub const " ++ identifier constant.name ++ ": " ++
      constant.type.text current ++ " = " ++ constant.valueText ++ ";",
    ""
  ]

def Alias.lines (entry : Alias) (current : String) : List String :=
  ["pub const " ++ entry.name ++ " = " ++ entry.type.text current ++ ";", ""]

/-- The callback whose own type is among its parameters, which is why its text is fixed. -/
def selfReferringCallback : String :=
  "ClosureNotify"

def Callback.lines (callback : Callback) (current : String) : List String :=
  if callback.name = selfReferringCallback then
    [
      "pub const ClosureNotify = ?*const fn (p_data: ?*anyopaque, p_closure: *anyopaque) " ++
        "callconv(.C) void;",
      ""
    ]
  else
    ["pub const " ++ callback.name ++ " = " ++ callback.text current ++ ";", ""]

end ZigBindings
