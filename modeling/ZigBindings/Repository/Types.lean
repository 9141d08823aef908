/-!
# Type references

How a document refers to a type: by a name that may be qualified by a namespace, together with the
spelling the type has in C; as an array of some other type; or, for a parameter, as the open end of
a parameter list. A field may also hold a callback, which is described in place.
-/

namespace ZigBindings

/-- The name of a type: the namespace it is qualified by, if any, and its name there. -/
structure TypeName where
  space : Option String
  base : String
  deriving DecidableEq

/-- Splits a name at its first dot; without a dot it is not qualified. -/
def TypeName.ofString (raw : String) : TypeName :=
  match raw.toList.span (· != '.') with
  | (before, _ :: after) => ⟨some (String.ofList before), String.ofList after⟩
  | (_, []) => ⟨none, raw⟩

/-- A reference to a type that is not an array; both parts may be missing. -/
structure SimpleType where
  name : Option TypeName := none
  spelling : Option String := none
  deriving DecidableEq

/-- A reference to a type; an array without a size is unbounded. -/
inductive TypeRef where
  | simple (type : SimpleType)
  | array (element : TypeRef) (size : Option Int)
  deriving DecidableEq

instance : Inhabited TypeRef := ⟨.simple {}⟩

inductive ParameterType where
  | value (type : TypeRef)
  | variadic
  deriving DecidableEq

/-- A parameter; the instance parameter is the value that a method belongs to. -/
structure Parameter where
  name : String
  type : ParameterType
  isInstance : Bool := false
  deriving DecidableEq

def TypeRef.nothing : TypeRef :=
  .simple ⟨some ⟨none, "none"⟩, some "void"⟩

structure ReturnValue where
  type : TypeRef := TypeRef.nothing
  nullable : Bool := false
  deriving DecidableEq

structure Callback where
  name : String
  parameters : List Parameter := []
  returns : ReturnValue := {}
  deriving DecidableEq

inductive FieldType where
  | value (type : TypeRef)
  | callback (signature : Callback)
  deriving DecidableEq

end ZigBindings
