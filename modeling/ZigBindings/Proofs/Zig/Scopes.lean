import ZigBindings.Proofs.Distinct
import ZigBindings.Proofs.Text.CamelCase
import ZigBindings.Proofs.Zig.IdentifierReading
import ZigBindings.Repository.Reader

/-!
# What a scope declares

Each callable declares two identifiers in the scope that it is written into: its symbol, and the
camel case of its name. They are read from the text of the scope, and told by their names, however
they are quoted. The symbols of a scope may be different and so may be the names, and yet something
can be declared twice: a name without underscores that is its own symbol, which is what a callable
without a symbol is given, or two names with the same camel case.
-/

namespace ZigBindings

open ZigBindings.Text ZigBindings.Zig

def nameBehind? (start : String) (text : List Char) : Option String :=
  if start.toList.isPrefixOf text then
    (readIdentifier (text.drop start.toList.length)).map Prod.fst
  else none

/-- The identifiers that an extern function and the alias beside it declare. -/
def declaredBy (pair : List Char × Option (List Char)) : List String :=
  (nameBehind? "extern fn " pair.1).toList ++ (pair.2.bind (nameBehind? "pub const ")).toList

/-- The identifiers that the extern functions in some lines and their aliases declare, in order. -/
def declaredNames (lines : List String) : List String :=
  (externs lines).flatMap declaredBy

def Callable.camelName (callable : Callable) : String :=
  String.ofList (camelCase ['_'] callable.name.toList)

/-- Some callables and the lines that they are written into, side by side: no type or function stands
around some of them only. -/
structure Scope where
  lines : List String
  callables : List Declared

def Scope.kept (scope : Scope) : List Callable :=
  (scope.callables.filter Declared.isKept).map (·.callable)

def Class.scopes (type : Class) (current : String) : List Scope :=
  [
    ⟨type.ownLines current, Declared.ofOwner type.functions type.constructors []⟩,
    ⟨type.mixinLines current, Declared.ofOwner [] [] type.methods⟩
  ]

def Interface.scopes (type : Interface) (current : String) : List Scope :=
  [
    ⟨type.ownLines current, Declared.ofOwner type.functions type.constructors []⟩,
    ⟨type.mixinLines current, Declared.ofOwner [] [] type.methods⟩
  ]

/-- The scopes of a module that callables are written into. -/
def Namespace.scopes (space : Namespace) : List Scope :=
  space.classes.flatMap (·.scopes space.name) ++
    space.interfaces.flatMap (·.scopes space.name) ++
    space.records.map (fun type => ⟨type.lines "extern struct" space.name, type.callables⟩) ++
    space.unions.map (fun type => ⟨type.lines "extern union" space.name, type.callables⟩) ++
    space.enumerations.map (fun type => ⟨type.lines space.name, type.callables⟩) ++
    space.bitFields.map (fun type => ⟨type.flagLines space.name, type.callables⟩) ++
    [⟨space.functions.flatMap (·.functionLines space.name 0),
      Declared.ofOwner space.functions [] []⟩]

section Reading

theorem name_behind (start name : String) {rest : List Char} {c : Char}
    (sign : rest.head? = some c) (ends : isWordChar c = false) :
    nameBehind? start (start.toList ++ ((identifier name).toList ++ rest)) = some name := by
  have behind : ∀ d ∈ rest.head?, isWordChar d = false := by
    rw [sign]
    rintro _ ⟨rfl⟩
    exact ends
  have starts : start.toList.isPrefixOf (start.toList ++ ((identifier name).toList ++ rest)) :=
    List.isPrefixOf_iff_prefix.mpr (List.prefix_append _ _)
  rw [nameBehind?, if_pos starts, List.drop_left, read_identifier name behind]
  rfl

theorem declared_by_pair (entry : Declared) (current : String) :
    declaredBy (entry.pair current) = [entry.callable.symbol, entry.callable.camelName] := by
  have symbol : nameBehind? "extern fn " (entry.externLine current).toList =
      some entry.callable.symbol := by
    unfold Declared.externLine
    simp only [String.append_assoc, String.toList_append]
    exact name_behind "extern fn " _ (c := '(') rfl rfl
  have name : nameBehind? "pub const " entry.aliasLine.toList =
      some entry.callable.camelName := by
    unfold Declared.aliasLine
    simp only [String.append_assoc, String.toList_append]
    exact name_behind "pub const " _ (c := ' ') rfl rfl
  simp [declaredBy, Declared.pair, symbol, name]

theorem Declares.names {current : String} {lines : List String} {entries : List Declared}
    (declares : Declares current lines entries) :
    declaredNames lines =
      ((entries.filter Declared.isKept).map (·.callable)).flatMap
        fun callable => [callable.symbol, callable.camelName] := by
  have read := declares []
  rw [List.append_nil, externs, List.append_nil] at read
  rw [declaredNames, read, List.flatMap_map, List.flatMap_map]
  exact List.flatMap_congr fun entry _ => declared_by_pair entry current

end Reading

section Parts

variable {current : String}

/-- The text of a scope is a part of the given lines, and declares the callables of the scope. -/
structure Scope.IsIn (scope : Scope) (current : String) (lines : List String) : Prop where
  part : scope.lines <:+: lines
  declares : Declares current scope.lines scope.callables

/-- Some scopes are in some lines, one after the other. -/
def HasScopes (current : String) (lines : List String) (scopes : List Scope) : Prop :=
  ∀ scope ∈ scopes, scope.IsIn current lines

theorem no_scopes (lines : List String) : HasScopes current lines [] := by
  simp [HasScopes]

theorem scope_of_declares {lines : List String} {callables : List Declared}
    (declares : Declares current lines callables) :
    HasScopes current lines [⟨lines, callables⟩] :=
  List.forall_mem_singleton.mpr ⟨List.infix_rfl, declares⟩

theorem HasScopes.append {lines others : List String} {scopes more : List Scope}
    (first : HasScopes current lines scopes) (second : HasScopes current others more) :
    HasScopes current (lines ++ others) (scopes ++ more) := by
  refine List.forall_mem_append.mpr ⟨fun scope member => ?_, fun scope member => ?_⟩
  · obtain ⟨part, declares⟩ := first scope member
    exact ⟨part.trans (List.prefix_append lines others).isInfix, declares⟩
  · obtain ⟨part, declares⟩ := second scope member
    exact ⟨part.trans (List.suffix_append lines others).isInfix, declares⟩

theorem scopes_flat_map {α : Type} {lines : α → List String} {scopes : α → List Scope}
    (items : List α) (each : ∀ item, HasScopes current (lines item) (scopes item)) :
    HasScopes current (items.flatMap lines) (items.flatMap scopes) := by
  induction items with
  | nil => exact no_scopes []
  | cons item rest ih => exact (each item).append ih

theorem scopes_map {α : Type} {lines : α → List String} {callables : α → List Declared}
    (items : List α) (each : ∀ item, Declares current (lines item) (callables item)) :
    HasScopes current (items.flatMap lines)
      (items.map fun item => ⟨lines item, callables item⟩) := by
  rw [← List.flatMap_singleton' (items.map _), List.flatMap_map]
  exact scopes_flat_map items fun item => scope_of_declares (each item)

theorem class_scopes (type : Class) :
    HasScopes current (type.lines current) (type.scopes current) :=
  (scope_of_declares (class_own_declares type)).append
    (scope_of_declares (class_mixin_declares type))

theorem interface_scopes (type : Interface) :
    HasScopes current (type.lines current) (type.scopes current) :=
  (scope_of_declares (interface_own_declares type)).append
    (scope_of_declares (interface_mixin_declares type))

/-- Every scope of a namespace is a part of its module. -/
theorem namespace_scopes (space : Namespace) :
    HasScopes space.name space.lines space.scopes := by
  have aliases : HasScopes space.name (space.aliases.flatMap (·.lines space.name)) [] :=
    no_scopes _
  have functions : Declares space.name (space.functions.flatMap (·.functionLines space.name 0))
      (Declared.ofOwner space.functions [] []) := by
    simpa [Declared.ofOwner] using functions_declare space.functions 0
  have types := (((((aliases.append (scopes_flat_map space.classes class_scopes)).append
    (scopes_flat_map space.interfaces interface_scopes)).append
    (scopes_map space.records (compound_declares · "extern struct"))).append
    (scopes_map space.unions (compound_declares · "extern union"))).append
    (scopes_map space.enumerations enumeration_declares)).append
    (scopes_map space.bitFields flags_declare)
  have scopes := ((types.append (scope_of_declares functions)).append
    (no_scopes (space.callbacks.flatMap (·.lines space.name)))).append
    (no_scopes (space.constants.flatMap (·.lines space.name 0)))
  simpa [Namespace.lines, Namespace.scopes] using scopes

theorem scopes_callables (space : Namespace) :
    space.scopes.flatMap (·.callables) = space.callables := by
  have classes (type : Class) :
      (type.scopes space.name).flatMap (·.callables) = type.callables := by
    simp [Class.scopes, Class.callables, Declared.ofOwner]
  have interfaces (type : Interface) :
      (type.scopes space.name).flatMap (·.callables) = type.callables := by
    simp [Interface.scopes, Interface.callables, Declared.ofOwner]
  simp only [Namespace.scopes, List.flatMap_append, List.flatMap_assoc, classes, interfaces,
    List.flatMap_map, List.flatMap_singleton]
  rfl

theorem names_in_scopes (space : Namespace) :
    declaredNames space.lines = space.scopes.flatMap (declaredNames ·.lines) := by
  have each : ∀ scope ∈ space.scopes, declaredNames scope.lines =
      scope.kept.flatMap fun callable => [callable.symbol, callable.camelName] :=
    fun scope inside => (namespace_scopes space scope inside).declares.names
  rw [(namespace_declares space).names, ← scopes_callables, List.flatMap_congr each,
    List.filter_flatMap, List.map_flatMap, List.flatMap_assoc]
  rfl

end Parts

section CamelNames

theorem camel_name_injective {first second : Callable}
    (snake : isSnakeCase first.name.toList) (alsoSnake : isSnakeCase second.name.toList)
    (same : first.camelName = second.camelName) : first.name = second.name :=
  String.toList_inj.mp (camelCase_injective snake alsoSnake (String.ofList_injective same))

theorem ne_camel_name {callable : Callable} {symbol : String} (underscore : '_' ∈ symbol.toList) :
    symbol ≠ callable.camelName := by
  have spared : spares upperSpecials upperRuns ['_'.toNat] := by decide +kernel
  rintro rfl
  rw [Callable.camelName, String.toList_ofList] at underscore
  exact mark_not_in_camelCase spared List.mem_cons_self _ underscore

end CamelNames

/-- What the callables of a module declare is declared in its scopes, in order. Where the names of
the callables in a scope are different and so are their symbols, the scope declares nothing twice
if and only if different names have different camel cases and none of these is a symbol. Both hold
where the names are in snake case and the symbols have underscores. -/
theorem scope_declares_once_iff (space : Namespace) {scope : Scope} (inside : scope ∈ space.scopes)
    (names : (scope.kept.map (·.name)).Nodup) (symbols : (scope.kept.map (·.symbol)).Nodup) :
    declaredNames space.lines = space.scopes.flatMap (declaredNames ·.lines) ∧
    scope.lines <:+: space.lines ∧
    ((declaredNames scope.lines).Nodup ↔
      (∀ first ∈ scope.kept, ∀ second ∈ scope.kept,
        first.camelName = second.camelName → first.name = second.name) ∧
      ∀ first ∈ scope.kept, ∀ second ∈ scope.kept, first.symbol ≠ second.camelName) ∧
    ((∀ callable ∈ scope.kept,
        isSnakeCase callable.name.toList ∧ '_' ∈ callable.symbol.toList) →
      (declaredNames scope.lines).Nodup) := by
  obtain ⟨part, declares⟩ := namespace_scopes space scope inside
  have once : (declaredNames scope.lines).Nodup ↔
      (∀ first ∈ scope.kept, ∀ second ∈ scope.kept,
        first.camelName = second.camelName → first.name = second.name) ∧
      ∀ first ∈ scope.kept, ∀ second ∈ scope.kept, first.symbol ≠ second.camelName := by
    have camels : (scope.kept.map Callable.camelName).Nodup ↔ _ := nodup_map_iff names
    rw [declares.names]
    refine (nodup_pairs_iff scope.kept _ _).trans ?_
    rw [camels]
    exact and_iff_right symbols
  refine ⟨names_in_scopes space, part, once, fun usual => once.mpr ⟨fun first member second member' => ?_,
    fun first member second _ => ?_⟩⟩
  · exact camel_name_injective (usual first member).1 (usual second member').1
  · exact ne_camel_name (usual first member).2

/-- A record with a callable of each kind, named as is the custom in C, and one that has moved. -/
def rectangle : Compound where
  name := "Rectangle"
  functions := [
    { name := "union", symbol := "gdk_union", movedTo := some "Rectangle.union" },
    { name := "union", symbol := "gdk_rectangle_union" }]
  constructors := [{ name := "new_at", symbol := "gdk_rectangle_new_at" }]
  methods := [{ name := "get_x", symbol := "gdk_rectangle_get_x" }]

theorem scope_declares_once_iff_rectangle :
    let scope : Scope := ⟨rectangle.lines "extern struct" "Gdk", rectangle.callables⟩
    (scope.kept.map (·.name)).Nodup ∧ (scope.kept.map (·.symbol)).Nodup ∧
      (declaredNames scope.lines).Nodup := by
  intro scope
  have names : (scope.kept.map (·.name)).Nodup := by decide +kernel
  have symbols : (scope.kept.map (·.symbol)).Nodup := by decide +kernel
  have inside : scope ∈ Namespace.scopes { name := "Gdk", records := [rectangle] } :=
    List.mem_cons_self
  obtain ⟨_, _, _, usual⟩ := scope_declares_once_iff _ inside names symbols
  exact ⟨names, symbols, usual (by decide +kernel)⟩

/-- Whether a scope declares something twice although its callables have different names and
different symbols. -/
def Namespace.DeclaresTwice (space : Namespace) : Prop :=
  ∃ scope ∈ space.scopes, (scope.kept.map (·.name)).Nodup ∧ (scope.kept.map (·.symbol)).Nodup ∧
    ¬(declaredNames scope.lines).Nodup

/-- A function without a symbol has its name for one, and a name without underscores is its own
camel case. Or two names have the same one. -/
theorem scopes_declare_twice :
    Reader.callable "" (.element (core "function") [(⟨none, "name"⟩, "init")] []) =
        .ok { name := "init", symbol := "init" } ∧
      Namespace.DeclaresTwice {
        name := "Foo"
        functions := [{ name := "init", symbol := "init" }] } ∧
      Namespace.DeclaresTwice {
        name := "Foo"
        functions := [
          { name := "set_x", symbol := "foo_set_x" },
          { name := "setX", symbol := "foo_setX" }] } := by
  refine ⟨rfl, ?_, ?_⟩
  · unfold Namespace.DeclaresTwice
    decide +kernel
  · unfold Namespace.DeclaresTwice
    decide +kernel

end ZigBindings
