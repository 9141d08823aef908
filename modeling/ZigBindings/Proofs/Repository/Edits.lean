import Mathlib.Logic.Relation
import ZigBindings.Proofs.Repository.Blind
import ZigBindings.Proofs.Repository.Canonical

/-!
# Changes that the reading does not see

A tree may be changed wherever the reading does not look: in its text, in children and attributes
that are not asked for, and in the order of children with different tags where that has no part in
the reading. Such changes leave the essence of a tree as it is, and with it what is read.
-/

namespace ZigBindings

open ZigBindings.Markup

/-- One change, at any depth, to what is not asked for. -/
inductive Edit : Node → Node → Prop where
  /-- Text is changed. -/
  | text (before after : String) : Edit (.text before) (.text after)
  /-- Text, or an element with a tag that is not asked for, is put in. -/
  | insert {tag : ExpandedName} {attributes : List (ExpandedName × String)}
      (front back : List Node) {child : Node}
      (unasked : ∀ own ∈ child.tag?, own ∉ (asked tag).children) :
      Edit (.element tag attributes (front ++ back))
        (.element tag attributes (front ++ child :: back))
  /-- Text, or an element with a tag that is not asked for, is taken out. -/
  | remove {tag : ExpandedName} {attributes : List (ExpandedName × String)}
      (front back : List Node) {child : Node}
      (unasked : ∀ own ∈ child.tag?, own ∉ (asked tag).children) :
      Edit (.element tag attributes (front ++ child :: back))
        (.element tag attributes (front ++ back))
  /-- An attribute that is not asked for is added. -/
  | annotate {tag : ExpandedName} {children : List Node}
      (front back : List (ExpandedName × String)) {name : ExpandedName} {value : String}
      (unread : name ∉ (asked tag).attributes) :
      Edit (.element tag (front ++ back) children)
        (.element tag (front ++ (name, value) :: back) children)
  /-- Children are put in another order, but not those with the same tag. -/
  | reorder {tag : ExpandedName} {attributes : List (ExpandedName × String)}
      {children others : List Node} (free : (asked tag).anyOrder) (perm : children.Perm others)
      (stable : ∀ own, (children.filter fun child => child.tag? = some own) =
        others.filter fun child => child.tag? = some own) :
      Edit (.element tag attributes children) (.element tag attributes others)
  /-- A child is changed. -/
  | within {tag : ExpandedName} {attributes : List (ExpandedName × String)}
      (front back : List Node) {child other : Node} (edit : Edit child other) :
      Edit (.element tag attributes (front ++ child :: back))
        (.element tag attributes (front ++ other :: back))

theorem Edit.swap {tag : ExpandedName} {attributes : List (ExpandedName × String)}
    (front back : List Node) {child other : Node} (free : (asked tag).anyOrder)
    (differ : child.tag? ≠ other.tag?) :
    Edit (.element tag attributes (front ++ child :: other :: back))
      (.element tag attributes (front ++ other :: child :: back)) := by
  refine .reorder free ((List.Perm.swap other child back).append_left front) fun own => ?_
  by_cases here : child.tag? = some own
  · have there : other.tag? ≠ some own := fun same => differ (here.trans same.symm)
    simp [List.filter_append, here, there]
  · simp [List.filter_append, List.filter_cons, here]

section Edits

variable {interest : Interest}

theorem kept_attributes_insert {name : ExpandedName} {value : String}
    (front back : List (ExpandedName × String)) (unread : name ∉ interest.attributes) :
    keptAttributes interest (front ++ (name, value) :: back) =
      keptAttributes interest (front ++ back) := by
  simp [keptAttributes, List.filter_append, unread]

theorem kept_children_insert {child : Node} (front back : List Node)
    (unasked : ∀ own ∈ child.tag?, own ∉ interest.children) :
    keptChildren interest (front ++ child :: back) = keptChildren interest (front ++ back) := by
  have other : ∀ own ∈ interest.children, child.tag? ≠ some own :=
    fun own wanted here => unasked own here wanted
  have dropped : isAsked interest child = false := by
    rw [isAsked, List.any_eq_false]
    exact fun own wanted => by simp [other own wanted]
  unfold keptChildren
  split
  · refine List.flatMap_congr fun own wanted => ?_
    rw [List.filter_append, List.filter_cons_of_neg (by simp [other own wanted]),
      ← List.filter_append]
  · rw [List.filter_append, List.filter_cons_of_neg (by simp [dropped]), ← List.filter_append]

theorem kept_children_reorder {children others : List Node} (free : interest.anyOrder)
    (stable : ∀ own, (children.filter fun child => child.tag? = some own) =
      others.filter fun child => child.tag? = some own) :
    keptChildren interest (essences children) = keptChildren interest (essences others) := by
  rw [keptChildren, keptChildren, if_pos free, if_pos free]
  refine List.flatMap_congr fun own _ => ?_
  rw [filter_essences, filter_essences, stable]

theorem essences_append (first second : List Node) :
    essences (first ++ second) = essences first ++ essences second := by
  simp only [essences_eq_map, List.map_append]

theorem Edit.essence_eq {first second : Node} (edit : Edit first second) :
    essence first = essence second := by
  induction edit with
  | text before after => rfl
  | insert front back unasked =>
      simp only [essence, essences_append, essences]
      rw [kept_children_insert _ _ (by simpa using unasked)]
  | remove front back unasked =>
      simp only [essence, essences_append, essences]
      rw [kept_children_insert _ _ (by simpa using unasked)]
  | annotate front back unread =>
      simp only [essence, kept_attributes_insert front back unread]
  | reorder free perm stable =>
      simp only [essence, kept_children_reorder free stable]
  | within front back edit ih =>
      simp only [essence, essences_append, essences, ih]

theorem edits_essence_eq {first second : Node} (edits : Relation.ReflTransGen Edit first second) :
    essence first = essence second := by
  induction edits with
  | refl => rfl
  | tail _ edit ih => exact ih.trans edit.essence_eq

end Edits

/-- However often a tree is changed where the reading does not look, the same repository is read of
it, or none as before; and so it is with documents that have these trees. -/
theorem edits_unread {first second : Node} (edits : Relation.ReflTransGen Edit first second)
    (path : String) :
    (∀ value, Reader.repository path first = .ok value ↔
        Reader.repository path second = .ok value) ∧
      ∀ before after : Source, before.read = .tree first → after.read = .tree second →
        ∀ value, Repository.read path before = .ok value ↔
          Repository.read path after = .ok value := by
  have unread (value : Repository) :
      Reader.repository path first = .ok value ↔ Reader.repository path second = .ok value := by
    rw [← Reader.repository_essence first, edits_essence_eq edits, Reader.repository_essence]
  refine ⟨unread, fun before after earlier later value => ?_⟩
  rw [Repository.read, earlier, Repository.read, later]
  exact unread value

def quietRepository : Repository where
  path := "A-1.gir"
  includes := [⟨"B", "1"⟩]
  namespaces := [{
    name := "A"
    aliases := [⟨"T", {}⟩]
    records := [{ name := "R", fields := [⟨"f", .value (.simple {})⟩] }] }]

def notedRecord (notes : List Node) : Node :=
  .element (core "record") [plainly "name" "R"] [
    .element (core "field") [plainly "name" "f"] (notes ++ [.element (core "type") [] []])]

def notedSpace (attributes : List (ExpandedName × String)) (content : List Node) : Node :=
  .element (core "namespace") (attributes ++ [plainly "name" "A", plainly "version" ""]) content

/-- A note is put in, its text is changed, an attribute is added, and the order of declarations is
another one, within the namespace and around it. -/
theorem quiet_repository_read_of_edited :
    let note (text : String) : Node := .element (core "doc") [] [.text text]
    let edited : Node := .element (core "repository") []
      [notedSpace [(inC "prefix", "a")] [notedRecord [note "b"], (⟨"T", {}⟩ : Alias).tree],
        (⟨"B", "1"⟩ : Include).tree]
    Relation.ReflTransGen Edit quietRepository.tree edited ∧
      Reader.repository "A-1.gir" edited = .ok quietRepository := by
  intro note edited
  have field : asked (core "field") = .field := asked_row (by simp [Interest.table])
  have space : asked (core "namespace") = .space := asked_row (by simp [Interest.table])
  have root : asked (core "repository") = .root := asked_row (by simp [Interest.table])
  have noted : Edit (notedRecord []) (notedRecord [note "a"]) := by
    refine .within [] [] (.insert [] [_] ?_)
    rintro _ ⟨⟩
    rw [field]
    decide
  have written : Edit (notedRecord [note "a"]) (notedRecord [note "b"]) :=
    .within [] [] (.within [] [_] (.within [] [] (.text "a" "b")))
  have edits : Relation.ReflTransGen Edit quietRepository.tree edited := by
    refine .head (.within [_] [] (.within [_] [] noted)) <|
      .head (.within [_] [] (.within [_] [] written)) <|
      .head (.within [_] [] (.annotate [] [_, _] ?_)) <|
      .head (.within [_] [] (.swap [] [] ?_ ?_)) <|
      .single (.swap [] [] ?_ ?_)
    · rw [space]
      decide
    · rw [space]
      rfl
    · show some (core "alias") ≠ some (core "record")
      simp
    · rw [root]
      rfl
    · show some (core "include") ≠ some (core "namespace")
      simp
  have expressible : quietRepository.IsExpressible := by
    refine List.forall_mem_singleton.mpr ?_
    constructor <;> simp [Alias.IsExpressible, SimpleType.IsExpressible]
    constructor <;> simp [Field.IsExpressible, FieldType.IsExpressible, TypeRef.IsExpressible,
      SimpleType.IsExpressible]
  exact ⟨edits, ((edits_unread edits "A-1.gir").1 _).mp (repository_read_back expressible)⟩

end ZigBindings
