import ZigBindings.Proofs.Text.Case
import ZigBindings.Proofs.Text.Numeral
import ZigBindings.Proofs.Zig.Nesting
import ZigBindings.Proofs.Zig.References

/-!
# Type texts are balanced

A type is written with the brackets of its arrays and of its parameters, and with what its names
bring in. The latter are written as they are; with no brackets and double quotes in them the text
has all its literals and brackets closed. The names of parameters are written as identifiers, which
may be made of anything.
-/

namespace ZigBindings

open ZigBindings.Text ZigBindings.Zig

theorem marks_spared :
    spares lowerSpecials lowerRuns (marks.map Char.toNat) ∧
      spares upperSpecials upperRuns (marks.map Char.toNat) := by
  decide +kernel

theorem neutral_lower {text : String} (neutral : Neutral text.toList) :
    Neutral (lower text).toList := by
  intro c member mark
  exact neutral c (mem_lower marks_spared.1 (by decide) member (List.mem_map_of_mem mark)) mark

theorem neutral_pascalCase {separator name : List Char} (neutral : Neutral name) :
    Neutral (pascalCase separator name) := by
  intro c member mark
  exact neutral c (mem_pascalCase marks_spared.2 member (List.mem_map_of_mem mark)) mark

theorem neutral_append {first second : String} :
    Neutral (first ++ second).toList ↔ Neutral first.toList ∧ Neutral second.toList := by
  simp only [Neutral, String.toList_append, List.forall_mem_append]

section Fixed

theorem blank_balanced : Balanced "" := by
  decide

theorem pub_const_balanced : Balanced "pub const " := by
  decide

theorem signs_balanced : Balanced " = " ∧ Balanced ";" := by
  decide

theorem signature_closes : Leads ") callconv(.C) " [')'] [] := by
  decide

end Fixed

/-- A name both parts of which are without brackets and double quotes. -/
def TypeName.IsNeutral (name : TypeName) : Prop :=
  (∀ space ∈ name.space, Neutral space.toList) ∧ Neutral name.base.toList

def Reference.IsNeutral (reference : Reference) : Prop :=
  ∀ name ∈ reference.name?, name.IsNeutral

instance (name : TypeName) : Decidable name.IsNeutral :=
  inferInstanceAs (Decidable ((∀ space ∈ name.space, Neutral space.toList) ∧ _))

instance (reference : Reference) : Decidable reference.IsNeutral :=
  inferInstanceAs (Decidable (∀ name ∈ reference.name?, name.IsNeutral))

section Types

variable {current : String}

theorem neutral_modulePrefix {space : Option String}
    (neutral : ∀ name ∈ space, Neutral name.toList) :
    Neutral (modulePrefix space current).toList := by
  unfold modulePrefix
  cases space with
  | none => simp [Neutral]
  | some name =>
      by_cases own : lower name = lower current
      · simp [own, Neutral]
      · simp only [if_neg own]
        exact neutral_append.mpr ⟨neutral_lower (neutral name rfl), by decide⟩

theorem neutral_qualified {name : TypeName} (neutral : name.IsNeutral) :
    Neutral (modulePrefix name.space current ++ name.base).toList :=
  neutral_append.mpr ⟨neutral_modulePrefix neutral.1, neutral.2⟩

theorem builtins_balanced : ∀ entry ∈ builtins, Balanced entry.2 := by
  decide +kernel

theorem base_text_balanced {name : TypeName} (neutral : name.IsNeutral) :
    Balanced (baseText name current) := by
  unfold baseText
  split
  · rename_i found
    obtain ⟨before, behind, split, _⟩ := List.lookup_eq_some_iff.mp found
    exact builtins_balanced (name.base, _) (by rw [split]; simp)
  · exact Neutral.balanced (neutral_qualified neutral)

theorem neutral_resolvedName {name : TypeName} (neutral : name.IsNeutral) :
    (resolvedName name).IsNeutral := by
  unfold resolvedName
  by_cases object : name.base = "GType"
  · rw [if_pos object]
    exact ⟨by rintro _ ⟨rfl⟩; decide, by decide⟩
  · rw [if_neg object]
    exact neutral

theorem neutral_peel (pointer : Bool) (spelling : List Char) : Neutral (peel pointer spelling) := by
  have word : Neutral constWord := by decide
  fun_induction peel pointer spelling with
  | case1 => exact List.forall_mem_nil _
  | case2 _ _ _ _ ih => exact List.forall_mem_cons.mpr ⟨by decide, ih⟩
  | case3 pointer _ _ _ _ ih =>
      refine List.forall_mem_append.mpr ⟨?_, ih⟩
      cases pointer with
      | true => exact word
      | false => exact List.forall_mem_nil _
  | case4 => exact List.forall_mem_nil _

theorem peel_balanced (pointer : Bool) (spelling : List Char) :
    Balanced (String.ofList (peel pointer spelling)) := by
  refine Neutral.balanced ?_
  rw [String.toList_ofList]
  exact neutral_peel pointer spelling

theorem peel_text_balanced (spelling : List Char) :
    Balanced (String.ofList (peelText spelling)) := by
  unfold peelText
  by_cases pointer : spelling.getLast? = some '*'
  · have front : Balanced (String.ofList ['[', '*', ':', '0', ']']) := by decide
    rw [if_pos pointer, String.ofList_append]
    exact front.balanced (peel_balanced true _)
  · rw [if_neg pointer]
    exact peel_balanced false spelling

theorem named_text_balanced {name : TypeName} (spelling : String) (neutral : name.IsNeutral) :
    Balanced (namedText name spelling current) := by
  have text : Balanced (baseText ⟨none, "gchar"⟩ current) :=
    base_text_balanced ⟨by simp, by decide⟩
  have base := @base_text_balanced current _ (neutral_resolvedName neutral)
  simp only [namedText]
  split
  · exact (peel_text_balanced _).balanced text
  · exact (peel_balanced false _).balanced base

theorem SimpleType.text_balanced {type : SimpleType} (neutral : (Reference.simple type).IsNeutral) :
    Balanced (type.text current) := by
  have pointers : ∀ entry ∈ untypedPointers, Balanced entry.2 := by decide
  have unnamed : Balanced unnamedType := by decide
  obtain ⟨name, spelling⟩ := type
  simp only [SimpleType.text]
  cases pointer : untypedPointers.lookup (spelling.getD "") with
  | some text =>
      obtain ⟨before, behind, split, _⟩ := List.lookup_eq_some_iff.mp pointer
      exact pointers (spelling.getD "", text) (by rw [split]; simp)
  | none =>
      cases name with
      | none => exact unnamed
      | some name => exact named_text_balanced _ (neutral name rfl)

theorem neutral_digits (number : Nat) : Neutral (Nat.toDigits 10 number) := by
  intro c member
  have digit := digits_of_number number c member
  exact word_char_neutral (by simp [isWordChar, Char.isAlphanum, digit])

theorem decimal_balanced (number : Int) : Balanced (decimal number) := by
  have digits (magnitude : Nat) : Balanced (String.ofList (Nat.toDigits 10 magnitude)) := by
    refine Neutral.balanced ?_
    rw [String.toList_ofList]
    exact neutral_digits magnitude
  have minus : Balanced "-" := by decide
  cases number with
  | ofNat magnitude => exact digits magnitude
  | negSucc magnitude => exact minus.balanced (digits (magnitude + 1))

theorem TypeRef.text_balanced {type : TypeRef} (neutral : type.reference.IsNeutral) :
    Balanced (type.text current) := by
  induction type with
  | simple type => exact SimpleType.text_balanced neutral
  | array element size ih =>
      cases size with
      | none =>
          have front : Balanced "[*]" := by decide
          exact front.balanced (ih neutral)
      | some size =>
          have opens : Leads "[" [] [']'] := by decide
          have closes : Leads "]" [']'] [] := by decide
          exact ((opens.balanced (decimal_balanced size)).append closes).balanced (ih neutral)

theorem intercalate_balanced {separator : String} (between : Balanced separator)
    {texts : List String} (each : ∀ text ∈ texts, Balanced text) :
    Balanced (String.intercalate separator texts) := by
  induction texts with
  | nil =>
      rw [String.intercalate_nil]
      decide
  | cons first rest ih =>
      obtain ⟨here, others⟩ := List.forall_mem_cons.mp each
      cases rest with
      | nil =>
          rw [String.intercalate_singleton]
          exact here
      | cons second more =>
          rw [String.intercalate_cons_cons]
          exact (here.balanced between).balanced (ih others)

theorem Parameter.text_balanced {parameter : Parameter}
    (neutral : ∀ reference ∈ parameter.references, reference.IsNeutral) :
    Balanced (parameter.text current) := by
  obtain ⟨name, type, isInstance⟩ := parameter
  have colon : Balanced ": " := by decide
  have owner : Balanced "*const Self" ∧ Balanced "*Self" := by decide
  have variadic : Balanced variadicType := by decide
  refine ((identifier_balanced ("p_" ++ name)).balanced colon).balanced ?_
  unfold Parameter.typeText
  cases isInstance with
  | true =>
      rw [if_pos rfl]
      split
      · exact owner.1
      · exact owner.2
  | false =>
      cases type with
      | variadic => exact variadic
      | value type => exact TypeRef.text_balanced (neutral _ List.mem_cons_self)

theorem parameter_texts_balanced {parameters : List Parameter}
    (neutral : ∀ reference ∈ parameters.flatMap Parameter.references, reference.IsNeutral) :
    ∀ text ∈ parameters.map (·.text current), Balanced text := by
  intro text member
  obtain ⟨parameter, inside, rfl⟩ := List.mem_map.mp member
  exact Parameter.text_balanced fun reference found =>
    neutral reference (List.mem_flatMap.mpr ⟨parameter, inside, found⟩)

theorem parameter_list_balanced {parameters : List Parameter}
    (neutral : ∀ reference ∈ parameters.flatMap Parameter.references, reference.IsNeutral) :
    Balanced (parameterList parameters current) :=
  intercalate_balanced (by decide) (parameter_texts_balanced neutral)

theorem ReturnValue.text_balanced {returns : ReturnValue}
    (neutral : returns.type.reference.IsNeutral) : Balanced (returns.text current) := by
  have optional : Balanced "?" := by decide
  unfold ReturnValue.text
  split
  · exact optional.balanced (TypeRef.text_balanced neutral)
  · exact TypeRef.text_balanced neutral

theorem Callback.text_balanced {callback : Callback}
    (neutral : ∀ reference ∈ callback.references, reference.IsNeutral) :
    Balanced (callback.text current) := by
  obtain ⟨parameters, returns⟩ := List.forall_mem_append.mp neutral
  have opens : Leads "?*const fn (" [] [')'] := by decide
  exact ((opens.balanced (parameter_list_balanced parameters)).append signature_closes).balanced
    (TypeRef.text_balanced (returns _ List.mem_cons_self))

theorem FieldType.text_balanced {type : FieldType}
    (neutral : ∀ reference ∈ type.references, reference.IsNeutral) :
    Balanced (type.text current) := by
  cases type with
  | value type => exact TypeRef.text_balanced (neutral _ List.mem_cons_self)
  | callback signature => exact Callback.text_balanced neutral

end Types

end ZigBindings
