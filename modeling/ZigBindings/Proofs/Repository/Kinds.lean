import ZigBindings.Proofs.Repository.Readings

/-!
# Entries of a namespace by their kinds

The entries of a namespace are read in the order in which they stand, and each is added to those of
its kind. So a namespace is read as if each kind were read on its own, and the order of entries of
different kinds has no part in what is read.
-/

namespace ZigBindings

open ZigBindings.Markup

/-- The kinds of entries that a namespace has. -/
inductive Kind where
  | synonym
  | classType
  | interface
  | record
  | union
  | enumeration
  | bitField
  | function
  | callback
  | constant
  deriving DecidableEq

namespace Kind

def all : List Kind :=
  [.synonym, .classType, .interface, .record, .union, .enumeration, .bitField, .function, .callback,
    .constant]

def Value : Kind → Type
  | .synonym => Alias
  | .classType => Class
  | .interface => Interface
  | .record => Compound
  | .union => Compound
  | .enumeration => Enumeration
  | .bitField => Enumeration
  | .function => Callable
  | .callback => Callback
  | .constant => Constant

def tag : Kind → ExpandedName
  | .synonym => core "alias"
  | .classType => core "class"
  | .interface => core "interface"
  | .record => core "record"
  | .union => core "union"
  | .enumeration => core "enumeration"
  | .bitField => core "bitfield"
  | .function => core "function"
  | .callback => core "callback"
  | .constant => core "constant"

def read (path : String) : (kind : Kind) → Node → Except Stop kind.Value
  | .synonym => Reader.aliasEntry path
  | .classType => Reader.classEntry path
  | .interface => Reader.interfaceEntry path
  | .record => Reader.compoundEntry path
  | .union => Reader.compoundEntry path
  | .enumeration => Reader.enumerationEntry path
  | .bitField => Reader.enumerationEntry path
  | .function => Reader.callable path
  | .callback => Reader.callback path
  | .constant => Reader.constant path

def entry : (kind : Kind) → kind.Value → Entry
  | .synonym => .synonym
  | .classType => .class
  | .interface => .interface
  | .record => .record
  | .union => .union
  | .enumeration => .enumeration
  | .bitField => .bitField
  | .function => .function
  | .callback => .callback
  | .constant => .constant

def entries (kind : Kind) (space : Namespace) : List kind.Value :=
  match kind with
  | .synonym => space.aliases
  | .classType => space.classes
  | .interface => space.interfaces
  | .record => space.records
  | .union => space.unions
  | .enumeration => space.enumerations
  | .bitField => space.bitFields
  | .function => space.functions
  | .callback => space.callbacks
  | .constant => space.constants

theorem mem_all (kind : Kind) : kind ∈ all := by
  cases kind <;> decide

theorem tag_inj {kind other : Kind} : kind.tag = other.tag ↔ kind = other := by
  cases kind <;> cases other <;> simp [tag]

variable {path : String} {node : Node}

theorem entry_of_tag {kind : Kind} (tagged : node.tag? = some kind.tag) :
    Reader.entry path node = (some ∘ kind.entry) <$> kind.read path node := by
  cases kind <;> simp [Reader.entry, tagged, tag, entry, read] <;> rfl

theorem entry_of_other (other : ∀ kind : Kind, node.tag? ≠ some kind.tag) :
    Reader.entry path node = .ok none := by
  unfold Reader.entry
  exact (if_neg (other .synonym)).trans <| (if_neg (other .classType)).trans <|
    (if_neg (other .interface)).trans <| (if_neg (other .record)).trans <|
    (if_neg (other .union)).trans <| (if_neg (other .enumeration)).trans <|
    (if_neg (other .bitField)).trans <| (if_neg (other .function)).trans <|
    (if_neg (other .callback)).trans <| if_neg (other .constant)

@[simp]
theorem entries_add_self (kind : Kind) (space : Namespace) (value : kind.Value) :
    kind.entries (space.add (kind.entry value)) = kind.entries space ++ [value] := by
  cases kind <;> rfl

theorem entries_add_of_ne {kind other : Kind} (differ : kind ≠ other) (space : Namespace)
    (value : other.Value) : kind.entries (space.add (other.entry value)) = kind.entries space := by
  cases other <;> cases kind <;> first | rfl | exact absurd rfl differ

theorem name_add (kind : Kind) (space : Namespace) (value : kind.Value) :
    (space.add (kind.entry value)).name = space.name ∧
      (space.add (kind.entry value)).version = space.version := by
  cases kind <;> exact ⟨rfl, rfl⟩

theorem namespace_ext {first second : Namespace} (name : first.name = second.name)
    (version : first.version = second.version)
    (entries : ∀ kind : Kind, kind.entries first = kind.entries second) : first = second := by
  obtain ⟨_, _, _, _, _, _, _, _, _, _, _, _⟩ := first
  obtain ⟨_, _, _, _, _, _, _, _, _, _, _, _⟩ := second
  simp only [Namespace.mk.injEq]
  exact ⟨name, version, entries .synonym, entries .classType, entries .interface, entries .record,
    entries .union, entries .enumeration, entries .bitField, entries .function,
    entries .callback, entries .constant⟩

/-- The nodes with the tag of a kind, read as entries of that kind. -/
def Reads (path : String) (nodes : List Node) (kind : Kind) (values : List kind.Value) : Prop :=
  (nodes.filter fun node => node.tag? = some kind.tag).mapM (kind.read path) = .ok values

theorem reads_nil {kind : Kind} {values : List kind.Value} :
    kind.Reads path [] values ↔ values = [] :=
  mapM_nil_eq_ok_iff

theorem reads_cons_of_tag {kind : Kind} {rest : List Node} {values : List kind.Value}
    (tagged : node.tag? = some kind.tag) :
    kind.Reads path (node :: rest) values ↔
      ∃ first others, kind.read path node = .ok first ∧ kind.Reads path rest others ∧
        values = first :: others := by
  rw [Reads, List.filter_cons_of_pos (by simp [tagged]), mapM_cons_eq_ok_iff]
  rfl

theorem reads_cons_of_other {kind : Kind} {rest : List Node} {values : List kind.Value}
    (other : node.tag? ≠ some kind.tag) :
    kind.Reads path (node :: rest) values ↔ kind.Reads path rest values := by
  rw [Reads, List.filter_cons_of_neg (by simp [other]), Reads]

/-- What is still to be read of some nodes so that one namespace becomes another. -/
def Completes (path : String) (nodes : List Node) (start space : Namespace) : Prop :=
  ∀ kind : Kind, ∃ values, kind.Reads path nodes values ∧
    kind.entries start ++ values = kind.entries space

theorem completes_cons_of_tag {kind : Kind} {rest : List Node} {start space : Namespace}
    (tagged : node.tag? = some kind.tag) :
    Completes path (node :: rest) start space ↔
      ∃ value, kind.read path node = .ok value ∧
        Completes path rest (start.add (kind.entry value)) space := by
  have elsewhere {other : Kind} (differ : other ≠ kind) : node.tag? ≠ some other.tag := by
    rw [tagged]
    intro same
    exact differ (tag_inj.mp (Option.some.inj same)).symm
  constructor
  · intro completes
    obtain ⟨_, reads, total⟩ := completes kind
    obtain ⟨value, values, read, later, rfl⟩ := (reads_cons_of_tag tagged).mp reads
    refine ⟨value, read, fun other => ?_⟩
    -- The entry goes to its own kind and is passed over by the others.
    by_cases differ : other = kind
    · subst differ
      exact ⟨values, later, by rw [entries_add_self, List.append_assoc]; exact total⟩
    · rw [entries_add_of_ne differ]
      obtain ⟨values, reads, total⟩ := completes other
      exact ⟨values, (reads_cons_of_other (elsewhere differ)).mp reads, total⟩
  · rintro ⟨value, read, completes⟩ other
    obtain ⟨values, later, total⟩ := completes other
    by_cases differ : other = kind
    · subst differ
      rw [entries_add_self, List.append_assoc] at total
      exact ⟨value :: values, (reads_cons_of_tag tagged).mpr ⟨value, values, read, later, rfl⟩,
        total⟩
    · rw [entries_add_of_ne differ] at total
      exact ⟨values, (reads_cons_of_other (elsewhere differ)).mpr later, total⟩

theorem entries_read_iff {nodes : List Node} {start space : Namespace} :
    (∃ found, nodes.mapM (Reader.entry path) = .ok found ∧
        (found.filterMap id).foldl Namespace.add start = space) ↔
      start.name = space.name ∧ start.version = space.version ∧
        Completes path nodes start space := by
  induction nodes generalizing start with
  | nil =>
      simp only [Completes, mapM_nil_eq_ok_iff, reads_nil, exists_eq_left, List.append_nil,
        List.filterMap_nil, List.foldl_nil]
      constructor
      · rintro rfl
        exact ⟨rfl, rfl, fun _ => rfl⟩
      · rintro ⟨name, version, entries⟩
        exact namespace_ext name version entries
  | cons node rest ih =>
      simp only [mapM_cons_eq_ok_iff]
      by_cases own : ∃ kind : Kind, node.tag? = some kind.tag
      · obtain ⟨kind, tagged⟩ := own
        rw [completes_cons_of_tag tagged, entry_of_tag tagged]
        constructor
        · rintro ⟨_, ⟨first, others, here, later, rfl⟩, same⟩
          obtain ⟨value, read, rfl⟩ := map_eq_ok_iff.mp here
          obtain ⟨name, version, completes⟩ := ih.mp ⟨others, later, same⟩
          have kept := name_add kind start value
          exact ⟨kept.1.symm.trans name, kept.2.symm.trans version, value, read, completes⟩
        · rintro ⟨name, version, value, read, completes⟩
          have kept := name_add kind start value
          obtain ⟨others, later, same⟩ :=
            ih.mpr ⟨kept.1.trans name, kept.2.trans version, completes⟩
          exact ⟨_, ⟨some (kind.entry value), others, map_eq_ok_iff.mpr ⟨value, read, rfl⟩, later,
            rfl⟩, same⟩
      · have other := not_exists.mp own
        have same : Completes path (node :: rest) start space ↔ Completes path rest start space :=
          forall_congr' fun kind => by simp only [reads_cons_of_other (other kind)]
        rw [same, ← ih, entry_of_other other]
        constructor
        · rintro ⟨_, ⟨_, others, ⟨⟩, later, rfl⟩, same⟩
          exact ⟨others, later, same⟩
        · rintro ⟨others, later, same⟩
          exact ⟨_, ⟨none, others, rfl, later, rfl⟩, same⟩

end Kind

/-- A namespace is read exactly if each kind of its entries is, on its own. -/
theorem Reader.namespace_eq_ok_iff {path : String} {node : Node} {space : Namespace} :
    namespaceEntry path node = .ok space ↔
      attribute? node "name" = some space.name ∧
        space.version = (attribute? node "version").getD "" ∧
        ∀ kind : Kind, each node kind.tag (kind.read path) = .ok (kind.entries space) := by
  have fresh (kind : Kind) (name version : String) :
      kind.entries { name := name, version := version } = [] := by
    cases kind <;> rfl
  unfold namespaceEntry
  simp only [bind_eq_ok_iff, pure_eq_ok_iff, required_eq_ok_iff, Kind.entries_read_iff,
    Kind.Completes, fresh, List.nil_append, exists_eq_right]
  constructor
  · rintro ⟨_, named, rfl, version, entries⟩
    exact ⟨named, version.symm, entries⟩
  · rintro ⟨named, version, entries⟩
    exact ⟨_, named, rfl, version.symm, entries⟩

end ZigBindings
