import Mathlib.Data.List.Basic
import ZigBindings.Zig.Module

/-!
# What a module refers to

A module is written for one namespace, and what it takes from others it reaches by the prefixes of
their modules. Everything that may be written with a prefix is collected here, declaration by
declaration, in the order in which it is written and as often.
-/

namespace ZigBindings

open ZigBindings.Zig

/-- What may be written with a prefix: a simple type, the parent of a class, and the functions by
which a signal is connected. -/
inductive Reference where
  | simple (type : SimpleType)
  | parent (name : TypeName)
  | signal
  deriving DecidableEq

namespace Reference

/-- The namespace that a reference is to, if it names one. A type is written without regard to its
name if its spelling is that of a pointer to anything. -/
def space? : Reference → Option String
  | .simple type =>
    match untypedPointers.lookup (type.spelling.getD ""), type.name with
    | none, some name => (resolvedName name).space
    | _, _ => none
  | .parent name => name.space
  | .signal => some "gobject"

def prefixText (reference : Reference) (current : String) : String :=
  modulePrefix reference.space? current

/-- The name that a reference gives. -/
def name? : Reference → Option TypeName
  | .simple type => type.name
  | .parent name => some name
  | .signal => none

/-- Whether a reference is to what the object system defines: to the type of types, or to what
connects a signal. -/
def IsObject : Reference → Prop
  | .simple type => ∃ name ∈ type.name, name.base = "GType"
  | .parent _ => False
  | .signal => True

end Reference

def TypeRef.innermost : TypeRef → SimpleType
  | .simple type => type
  | .array element _ => element.innermost

def TypeRef.reference (type : TypeRef) : Reference :=
  .simple type.innermost

/-- An instance parameter is written without its type, and so is a variadic one. -/
def Parameter.references (parameter : Parameter) : List Reference :=
  if parameter.isInstance then []
  else
    match parameter.type with
    | .variadic => []
    | .value type => [type.reference]

def Callback.references (callback : Callback) : List Reference :=
  callback.parameters.flatMap Parameter.references ++ [callback.returns.type.reference]

def FieldType.references : FieldType → List Reference
  | .value type => [type.reference]
  | .callback signature => signature.references

def Field.references (field : Field) : List Reference :=
  field.type.references

def Callable.references (callable : Callable) : List Reference :=
  if callable.movedTo.isSome then []
  else callable.parameters.flatMap Parameter.references ++ [callable.returns.type.reference]

/-- What a constructor refers to; what it returns is not written. -/
def Callable.constructorReferences (callable : Callable) : List Reference :=
  if callable.movedTo.isSome then [] else callable.parameters.flatMap Parameter.references

/-- The functions of the object system come last: one connects the signal, one is a type that the
callback is cast to. -/
def Signal.references (signal : Signal) : List Reference :=
  signal.parameters.flatMap Parameter.references ++ [signal.returns.type.reference] ++
    [.signal, .signal]

def Constant.references (constant : Constant) : List Reference :=
  [constant.type.reference]

def Alias.references (entry : Alias) : List Reference :=
  [.simple entry.type]

/-- What a callback type of a namespace refers to: nothing if its text is fixed. -/
def Callback.declaredReferences (callback : Callback) : List Reference :=
  if callback.name = selfReferringCallback then [] else callback.references

def Class.references (type : Class) : List Reference :=
  type.fields.flatMap Field.references ++ type.functions.flatMap Callable.references ++
    type.constructors.flatMap Callable.constructorReferences ++
    type.constants.flatMap Constant.references ++ type.methods.flatMap Callable.references ++
    type.signals.flatMap Signal.references ++
    type.parent.toList.flatMap fun parent => [.parent parent, .parent parent, .parent parent]

def Interface.references (type : Interface) : List Reference :=
  type.functions.flatMap Callable.references ++
    type.constructors.flatMap Callable.constructorReferences ++
    type.constants.flatMap Constant.references ++ type.methods.flatMap Callable.references ++
    type.signals.flatMap Signal.references

def Compound.references (type : Compound) : List Reference :=
  type.fields.flatMap Field.references ++ type.functions.flatMap Callable.references ++
    type.constructors.flatMap Callable.constructorReferences ++
    type.methods.flatMap Callable.references

def Enumeration.references (type : Enumeration) : List Reference :=
  type.functions.flatMap Callable.references

/-- All that is written of a namespace with a prefix, or would be if it came from elsewhere. -/
def Namespace.references (space : Namespace) : List Reference :=
  space.aliases.flatMap Alias.references ++ space.classes.flatMap Class.references ++
    space.interfaces.flatMap Interface.references ++ space.records.flatMap Compound.references ++
    space.unions.flatMap Compound.references ++
    space.enumerations.flatMap Enumeration.references ++
    space.bitFields.flatMap Enumeration.references ++
    space.functions.flatMap Callable.references ++
    space.callbacks.flatMap Callback.declaredReferences ++
    space.constants.flatMap Constant.references

end ZigBindings
