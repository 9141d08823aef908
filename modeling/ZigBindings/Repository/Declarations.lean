import ZigBindings.Repository.Types

/-!
# Declarations of a repository

What one document declares: the namespaces it defines and the other documents it includes. Within
a namespace every kind of declaration has a list of its own, in document order.
-/

namespace ZigBindings

/-- A function, constructor or method. One that has moved is declared elsewhere. -/
structure Callable where
  name : String
  symbol : String
  parameters : List Parameter := []
  returns : ReturnValue := {}
  movedTo : Option String := none
  deriving DecidableEq

structure Signal where
  name : String
  parameters : List Parameter := []
  returns : ReturnValue := {}
  deriving DecidableEq

structure Field where
  name : String
  type : FieldType
  deriving DecidableEq

structure Constant where
  name : String
  type : TypeRef
  value : String
  deriving DecidableEq

structure Alias where
  name : String
  type : SimpleType
  deriving DecidableEq

structure Class where
  name : String
  parent : Option TypeName := none
  fields : List Field := []
  functions : List Callable := []
  constructors : List Callable := []
  methods : List Callable := []
  signals : List Signal := []
  constants : List Constant := []
  deriving DecidableEq

structure Interface where
  name : String
  functions : List Callable := []
  constructors : List Callable := []
  methods : List Callable := []
  signals : List Signal := []
  constants : List Constant := []
  deriving DecidableEq

/-- A record or a union: fields, side by side or in one place, and the callables that go with
them. -/
structure Compound where
  name : String
  fields : List Field := []
  functions : List Callable := []
  constructors : List Callable := []
  methods : List Callable := []
  deriving DecidableEq

structure Member where
  name : String
  value : Int
  deriving DecidableEq

structure Enumeration where
  name : String
  members : List Member := []
  functions : List Callable := []
  deriving DecidableEq

structure Namespace where
  name : String
  version : String := ""
  aliases : List Alias := []
  classes : List Class := []
  interfaces : List Interface := []
  records : List Compound := []
  unions : List Compound := []
  enumerations : List Enumeration := []
  bitFields : List Enumeration := []
  functions : List Callable := []
  callbacks : List Callback := []
  constants : List Constant := []
  deriving DecidableEq

structure Include where
  name : String
  version : String
  deriving DecidableEq

def Include.source (entry : Include) : String :=
  entry.name ++ "-" ++ entry.version ++ ".gir"

/-- One document: where it was read from, what it includes and what it defines. -/
structure Repository where
  path : String := ""
  includes : List Include := []
  namespaces : List Namespace := []
  deriving DecidableEq

def Repository.sources (repository : Repository) : List String :=
  repository.includes.map Include.source

end ZigBindings
