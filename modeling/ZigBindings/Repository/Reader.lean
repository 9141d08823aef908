import ZigBindings.Failure
import ZigBindings.Markup.Document
import ZigBindings.Repository.Declarations

/-!
# Reading repositories

From the tree of a document to the repository it describes. Elements and attributes that the
reading does not ask for are passed over; the first thing that is missing or wrong, in the order in
which things are asked for, makes the document unacceptable.
-/

namespace ZigBindings

open ZigBindings.Markup ZigBindings.Text

def coreSpace : String :=
  "http://www.gtk.org/introspection/core/1.0"

def cSpace : String :=
  "http://www.gtk.org/introspection/c/1.0"

def signalSpace : String :=
  "http://www.gtk.org/introspection/glib/1.0"

def core (base : String) : ExpandedName :=
  ⟨some coreSpace, base⟩

def signalTag : ExpandedName :=
  ⟨some signalSpace, "signal"⟩

/-- The attribute of a name space of its own that gives the spelling in C. -/
def inC (base : String) : ExpandedName :=
  ⟨some cSpace, base⟩

namespace Reader

def attribute? (node : Node) (name : String) : Option String :=
  node.attribute? ⟨none, name⟩

def filled? (value : Option String) : Option String :=
  value.filter (· ≠ "")

def required (path : String) (node : Node) (name : String) : Except Stop String :=
  match attribute? node name with
  | some value => .ok value
  | none =>
    let tag := (node.tag?.map (·.base)).getD ""
    .error (.because (.missingAttribute tag name path))

def simpleType (node : Node) : SimpleType :=
  ⟨(filled? (attribute? node "name")).map TypeName.ofString, node.attribute? (inC "type")⟩

def arraySize (path : String) (node : Node) : Except Stop (Option Int) :=
  match attribute? node "fixed-size" with
  | none => .ok none
  | some value =>
    match integer? value.toList with
    | some size => .ok (some size)
    | none => .error (.because (.arraySize value path))

/-- The type given by the first type or array among some nodes. An array with a name is a type of
its own. -/
def typeAmong (path : String) : List Node → Except Stop TypeRef
  | [] => .ok (.simple {})
  | .text _ :: rest => typeAmong path rest
  | .element tag attributes children :: rest =>
    let node := Node.element tag attributes []
    if tag = core "type" then .ok (.simple (simpleType node))
    else if tag = core "array" then
      if (filled? (attribute? node "name")).isSome then .ok (.simple (simpleType node))
      else do
        let size ← arraySize path node
        return .array (← typeAmong path children) size
    else typeAmong path rest

def typeOf (path : String) (node : Node) : Except Stop TypeRef :=
  typeAmong path node.children

def simpleTypeOf (node : Node) : SimpleType :=
  match node.childTagged? (core "type") with
  | some child => simpleType child
  | none => {}

def parameter (path : String) (node : Node) : Except Stop (Option Parameter) :=
  if node.tag? = some (core "instance-parameter") then do
    let name ← required path node "name"
    return some ⟨name, .value (← typeOf path node), true⟩
  else if node.tag? = some (core "parameter") then do
    let type ←
      if (node.childTagged? (core "varargs")).isSome then pure .variadic
      else .value <$> typeOf path node
    return some ⟨← required path node "name", type, false⟩
  else .ok none

/-- The parameters of what a node describes: those of its first parameter list. -/
def parameters (path : String) (node : Node) : Except Stop (List Parameter) :=
  match node.childTagged? (core "parameters") with
  | none => .ok []
  | some list => do
    return (← list.children.mapM (parameter path)).filterMap id

def returnValue (path : String) (node : Node) : Except Stop ReturnValue :=
  match node.childTagged? (core "return-value") with
  | none => .ok {}
  | some child => do
    let nullable := attribute? child "nullable" = some "1" || attribute? child "allow-none" = some "1"
    return ⟨← typeOf path child, nullable⟩

def callback (path : String) (node : Node) : Except Stop Callback := do
  let parameters ← parameters path node
  return ⟨(attribute? node "name").getD "", parameters, ← returnValue path node⟩

/-- A function, constructor or method; without a symbol its name is the symbol. -/
def callable (path : String) (node : Node) : Except Stop Callable := do
  let name ← required path node "name"
  let symbol := (filled? (node.attribute? (inC "identifier"))).getD name
  let parameters ← parameters path node
  let returns ← returnValue path node
  return ⟨name, symbol, parameters, returns, attribute? node "moved-to"⟩

def signal (path : String) (node : Node) : Except Stop Signal := do
  let name ← required path node "name"
  let parameters ← parameters path node
  return ⟨name, parameters, ← returnValue path node⟩

def constant (path : String) (node : Node) : Except Stop Constant := do
  let name ← required path node "name"
  let type ← typeOf path node
  return ⟨name, type, ← required path node "value"⟩

def field (path : String) (node : Node) : Except Stop Field := do
  let type ←
    match node.childTagged? (core "callback") with
    | some child => .callback <$> callback path child
    | none => .value <$> typeOf path node
  return ⟨← required path node "name", type⟩

def member (path : String) (node : Node) : Except Stop Member := do
  let value ← required path node "value"
  match integer? value.toList with
  | none => .error (.because (.memberValue (attribute? node "name") value path))
  | some number => return ⟨← required path node "name", number⟩

def each {α : Type} (node : Node) (tag : ExpandedName) (read : Node → Except Stop α) :
    Except Stop (List α) :=
  (node.childrenTagged tag).mapM read

def aliasEntry (path : String) (node : Node) : Except Stop Alias := do
  return ⟨← required path node "name", simpleTypeOf node⟩

def classEntry (path : String) (node : Node) : Except Stop Class := do
  let name ← required path node "name"
  let fields ← each node (core "field") (field path)
  let functions ← each node (core "function") (callable path)
  let constructors ← each node (core "constructor") (callable path)
  let methods ← each node (core "method") (callable path)
  let signals ← each node signalTag (signal path)
  let constants ← each node (core "constant") (constant path)
  let parent := (filled? (attribute? node "parent")).map TypeName.ofString
  return { name, parent, fields, functions, constructors, methods, signals, constants }

def interfaceEntry (path : String) (node : Node) : Except Stop Interface := do
  let name ← required path node "name"
  let functions ← each node (core "function") (callable path)
  let constructors ← each node (core "constructor") (callable path)
  let methods ← each node (core "method") (callable path)
  let signals ← each node signalTag (signal path)
  let constants ← each node (core "constant") (constant path)
  return { name, functions, constructors, methods, signals, constants }

def compoundEntry (path : String) (node : Node) : Except Stop Compound := do
  let name ← required path node "name"
  let fields ← each node (core "field") (field path)
  let functions ← each node (core "function") (callable path)
  let constructors ← each node (core "constructor") (callable path)
  let methods ← each node (core "method") (callable path)
  return { name, fields, functions, constructors, methods }

def enumerationEntry (path : String) (node : Node) : Except Stop Enumeration := do
  let members ← each node (core "member") (member path)
  let functions ← each node (core "function") (callable path)
  return ⟨← required path node "name", members, functions⟩

end Reader

inductive Entry where
  | synonym (entry : Alias)
  | class (entry : Class)
  | interface (entry : Interface)
  | record (entry : Compound)
  | union (entry : Compound)
  | enumeration (entry : Enumeration)
  | bitField (entry : Enumeration)
  | function (entry : Callable)
  | callback (entry : Callback)
  | constant (entry : Constant)

def Namespace.add (space : Namespace) : Entry → Namespace
  | .synonym entry => { space with aliases := space.aliases ++ [entry] }
  | .class entry => { space with classes := space.classes ++ [entry] }
  | .interface entry => { space with interfaces := space.interfaces ++ [entry] }
  | .record entry => { space with records := space.records ++ [entry] }
  | .union entry => { space with unions := space.unions ++ [entry] }
  | .enumeration entry => { space with enumerations := space.enumerations ++ [entry] }
  | .bitField entry => { space with bitFields := space.bitFields ++ [entry] }
  | .function entry => { space with functions := space.functions ++ [entry] }
  | .callback entry => { space with callbacks := space.callbacks ++ [entry] }
  | .constant entry => { space with constants := space.constants ++ [entry] }

namespace Reader

def entry (path : String) (node : Node) : Except Stop (Option Entry) :=
  if node.tag? = some (core "alias") then some <$> .synonym <$> aliasEntry path node
  else if node.tag? = some (core "class") then some <$> .class <$> classEntry path node
  else if node.tag? = some (core "interface") then some <$> .interface <$> interfaceEntry path node
  else if node.tag? = some (core "record") then some <$> .record <$> compoundEntry path node
  else if node.tag? = some (core "union") then some <$> .union <$> compoundEntry path node
  else if node.tag? = some (core "enumeration") then
    some <$> .enumeration <$> enumerationEntry path node
  else if node.tag? = some (core "bitfield") then some <$> .bitField <$> enumerationEntry path node
  else if node.tag? = some (core "function") then some <$> .function <$> callable path node
  else if node.tag? = some (core "callback") then some <$> .callback <$> callback path node
  else if node.tag? = some (core "constant") then some <$> .constant <$> constant path node
  else .ok none

def namespaceEntry (path : String) (node : Node) : Except Stop Namespace := do
  let name ← required path node "name"
  let entries ← node.children.mapM (entry path)
  let empty : Namespace := { name, version := (attribute? node "version").getD "" }
  return (entries.filterMap id).foldl Namespace.add empty

def includeEntry (path : String) (node : Node) : Except Stop Include := do
  let name ← required path node "name"
  return ⟨name, ← required path node "version"⟩

def repository (path : String) (root : Node) : Except Stop Repository := do
  if root.tag? = some (core "repository") then
    let includes ← each root (core "include") (includeEntry path)
    let namespaces ← each root (core "namespace") (namespaceEntry path)
    return ⟨path, includes, namespaces⟩
  else
    .error (.because (.wrongRoot ((root.tag?.map ExpandedName.text).getD "") path))

end Reader

def Repository.read (path : String) (source : Source) : Except Stop Repository :=
  match source.read with
  | .tree root => Reader.repository path root
  | .malformed => .error (.because (.malformed path))
  | .unknownEncoding name => .error (.unknownEncoding name)

end ZigBindings
