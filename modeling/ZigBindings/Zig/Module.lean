import ZigBindings.Zig.Container

/-!
# Module texts

The text of the module of a namespace: header lines, then the declarations, kind after kind. Beside
the text stands the list of the parameters that it cannot express, in the order in which they are
met.
-/

namespace ZigBindings

def Namespace.lines (space : Namespace) : List String :=
  space.aliases.flatMap (·.lines space.name) ++
    space.classes.flatMap (·.lines space.name) ++
    space.interfaces.flatMap (·.lines space.name) ++
    space.records.flatMap (·.lines "extern struct" space.name) ++
    space.unions.flatMap (·.lines "extern union" space.name) ++
    space.enumerations.flatMap (·.lines space.name) ++
    space.bitFields.flatMap (·.flagLines space.name) ++
    space.functions.flatMap (·.functionLines space.name 0) ++
    space.callbacks.flatMap (·.lines space.name) ++
    space.constants.flatMap (·.lines space.name 0)

def joinLines (lines : List String) : String :=
  String.join (lines.map (· ++ "\n"))

def Namespace.moduleText (space : Namespace) (header : List String) : String :=
  joinLines (header ++ space.lines)

/-- Whether the open end of a parameter list is met when the parameter is written. -/
def Parameter.isVariadic (parameter : Parameter) : Bool :=
  !parameter.isInstance && parameter.type == .variadic

def variadicNames (parameters : List Parameter) : List String :=
  (parameters.filter Parameter.isVariadic).map (·.name)

def FieldType.variadics : FieldType → List String
  | .value _ => []
  | .callback signature => variadicNames signature.parameters

/-- The names of the variadic parameters that are met in a callable, none if it has moved. -/
def Callable.variadics (callable : Callable) : List String :=
  if callable.movedTo.isSome then [] else variadicNames callable.parameters

def Callback.variadics (callback : Callback) : List String :=
  if callback.name = selfReferringCallback then [] else variadicNames callback.parameters

def Class.variadics (type : Class) : List String :=
  type.fields.flatMap (·.type.variadics) ++ type.functions.flatMap Callable.variadics ++
    type.constructors.flatMap Callable.variadics ++ type.methods.flatMap Callable.variadics ++
    type.signals.flatMap (variadicNames ·.parameters)

def Interface.variadics (type : Interface) : List String :=
  type.functions.flatMap Callable.variadics ++ type.constructors.flatMap Callable.variadics ++
    type.methods.flatMap Callable.variadics ++ type.signals.flatMap (variadicNames ·.parameters)

def Compound.variadics (type : Compound) : List String :=
  type.fields.flatMap (·.type.variadics) ++ type.functions.flatMap Callable.variadics ++
    type.constructors.flatMap Callable.variadics ++ type.methods.flatMap Callable.variadics

def Namespace.variadics (space : Namespace) : List String :=
  space.classes.flatMap Class.variadics ++
    space.interfaces.flatMap Interface.variadics ++
    space.records.flatMap Compound.variadics ++
    space.unions.flatMap Compound.variadics ++
    space.enumerations.flatMap (·.functions.flatMap Callable.variadics) ++
    space.bitFields.flatMap (·.functions.flatMap Callable.variadics) ++
    space.functions.flatMap Callable.variadics ++
    space.callbacks.flatMap Callback.variadics

end ZigBindings
