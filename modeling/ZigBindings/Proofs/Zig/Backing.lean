import Mathlib.Algebra.Group.Int.Defs
import ZigBindings.Zig.Container

/-!
# Integers behind types

An enumeration and a set of flags are each kept in an integer, which their first line names. There
are two such integers; the wide one is taken if some value is too large for the narrow one. That a
value may be too small for it is not looked at. So the integer of an enumeration has all of its
values and is the narrowest that has, unless some value is too small for the narrow one and none too
large.
-/

namespace ZigBindings

def backingEnd (kind integer : String) : String :=
  " = " ++ kind ++ "(" ++ integer ++ ") \x7b"

/-- The bits of the integer that a type of some kind is kept in, by its first line. -/
def backingBits? (kind first : String) : Option Nat :=
  if (backingEnd kind "i32").toList.isSuffixOf first.toList then some 32
  else if (backingEnd kind "i64").toList.isSuffixOf first.toList then some 64
  else none

def Fits (bits : Nat) (value : Int) : Prop :=
  -2 ^ (bits - 1) ≤ value ∧ value < 2 ^ (bits - 1)

instance (bits : Nat) (value : Int) : Decidable (Fits bits value) :=
  inferInstanceAs (Decidable (_ ∧ _))

/-- Whether the integer of an enumeration has the values of all its members and is a wide one only
if a narrow one has not. -/
def Enumeration.IsBacked (type : Enumeration) (current : String) : Prop :=
  ∃ bits, (type.lines current).head?.bind (backingBits? "enum") = some bits ∧
    (∀ entry ∈ type.members, Fits bits entry.value) ∧
    (bits = 64 → ∃ entry ∈ type.members, ¬Fits 32 entry.value)

section Backing

theorem backing_of_end (kind start : String) (tag : TagWidth) :
    backingBits? kind (start ++ backingEnd kind tag.text) = some tag.bits := by
  have own (integer : String) : (backingEnd kind integer).toList.isSuffixOf
      (start ++ backingEnd kind integer).toList = true := by
    rw [List.isSuffixOf_iff_suffix, String.toList_append]
    exact List.suffix_append _ _
  cases tag with
  | narrow => exact if_pos (own "i32")
  | wide =>
      have other : ¬(backingEnd kind "i32").toList.isSuffixOf
          (start ++ backingEnd kind "i64").toList = true := by
        intro narrow
        have length : (backingEnd kind "i32").toList.length =
            (backingEnd kind "i64").toList.length := by
          simp [backingEnd]
        have within := List.suffix_of_suffix_length_le (List.isSuffixOf_iff_suffix.mp narrow)
          (List.isSuffixOf_iff_suffix.mp (own "i64")) (Nat.le_of_eq length)
        have same := within.eq_of_length length
        simp [backingEnd] at same
      exact (if_neg other).trans (if_pos (own "i64"))

theorem enumeration_backing (type : Enumeration) (current : String) :
    (type.lines current).head?.bind (backingBits? "enum") = some (tagWidth type.members).bits := by
  have read := backing_of_end "enum" ("pub const " ++ type.name) (tagWidth type.members)
  have first : (type.lines current).head? =
      some ("pub const " ++ type.name ++ backingEnd "enum" (tagWidth type.members).text) := by
    simp [Enumeration.lines, backingEnd, ← String.append_assoc]
  rw [first]
  exact read

theorem tag_width_cases (members : List Member) :
    (tagWidth members = .wide ∧ ∃ entry ∈ members, 2 ^ 31 ≤ entry.value) ∨
      (tagWidth members = .narrow ∧ ∀ entry ∈ members, entry.value < 2 ^ 31) := by
  unfold tagWidth
  split
  · rename_i large
    exact .inl ⟨rfl, by simpa using large⟩
  · rename_i small
    exact .inr ⟨rfl, by simpa using small⟩

theorem wide_needed {members : List Member} (wide : (tagWidth members).bits = 64) :
    ∃ entry ∈ members, ¬Fits 32 entry.value := by
  obtain ⟨_, entry, member, large⟩ | ⟨narrow, _⟩ := tag_width_cases members
  · have beyond : ¬Fits 32 entry.value := by
      unfold Fits
      omega
    exact ⟨entry, member, beyond⟩
  · rw [narrow] at wide
    exact absurd wide (by decide)

/-- The integer that is taken has a value that is not too small for the narrow one, and any value of
64 bits if it is the wide one. -/
theorem fits_taken_iff {members : List Member} {entry : Member} (member : entry ∈ members)
    (inRange : Fits 64 entry.value) :
    Fits (tagWidth members).bits entry.value ↔
      -2 ^ 31 ≤ entry.value ∨ ∃ other ∈ members, 2 ^ 31 ≤ other.value := by
  obtain ⟨wide, large⟩ | ⟨narrow, small⟩ := tag_width_cases members
  · rw [wide]
    exact iff_of_true inRange (.inr large)
  · have below := small entry member
    have none : ¬∃ other ∈ members, 2 ^ 31 ≤ other.value := by
      intro ⟨other, inside, large⟩
      exact absurd (small other inside) (by omega)
    rw [narrow, or_iff_left none]
    show Fits 32 entry.value ↔ _
    unfold Fits
    omega

end Backing

/-- The wide integer is declared only for a value that the narrow one has not, and whatever is
declared has every value that is not too small for the narrow one. So the declared integer has all
values and is the narrowest that has, if none of them is too small for the narrow one or some are
too large for it, and otherwise it has not. -/
theorem backed_unless_below (type : Enumeration) (current : String)
    (inRange : ∀ entry ∈ type.members, Fits 64 entry.value) :
    (∃ bits, (type.lines current).head?.bind (backingBits? "enum") = some bits ∧
      (bits = 64 → ∃ entry ∈ type.members, ¬Fits 32 entry.value) ∧
      ∀ entry ∈ type.members, -2 ^ 31 ≤ entry.value → Fits bits entry.value) ∧
    (type.IsBacked current ↔ (∀ entry ∈ type.members, -2 ^ 31 ≤ entry.value) ∨
      ∃ entry ∈ type.members, 2 ^ 31 ≤ entry.value) := by
  have read := enumeration_backing type current
  have fits {entry : Member} (member : entry ∈ type.members) :=
    fits_taken_iff member (inRange entry member)
  constructor
  · exact ⟨_, read, wide_needed, fun entry member above => (fits member).mpr (.inl above)⟩
  constructor
  · intro ⟨bits, declared, each, _⟩
    rw [read] at declared
    cases declared
    -- With no member too large the narrow integer was declared, and all members fit it.
    by_cases large : ∃ entry ∈ type.members, 2 ^ 31 ≤ entry.value
    · exact .inr large
    · apply Or.inl
      intro entry member
      exact ((fits member).mp (each entry member)).resolve_right large
  · intro condition
    have each : ∀ entry ∈ type.members, Fits (tagWidth type.members).bits entry.value := by
      intro entry member
      apply (fits member).mpr
      exact condition.imp_left fun above => above entry member
    exact ⟨_, read, each, wide_needed⟩

/-- The least value of 64 bits beside one that is too large for 32 bits. -/
def depths : Enumeration where
  name := "Depth"
  members := [⟨"lowest", -9223372036854775808⟩, ⟨"none", 0⟩, ⟨"over", 2147483648⟩]

theorem backed_unless_below_wide :
    (∀ entry ∈ depths.members, Fits 64 entry.value) ∧ depths.IsBacked "Gdk" ∧
      ∃ entry ∈ depths.members, ¬Fits 32 entry.value := by
  have inRange : ∀ entry ∈ depths.members, Fits 64 entry.value := by decide
  obtain ⟨_, backed⟩ := backed_unless_below depths "Gdk" inRange
  exact ⟨inRange, backed.mpr (.inr (by decide)), by decide⟩

def lowDepths : Enumeration where
  name := "Depth"
  members := [⟨"lowest", -2147483649⟩]

/-- That a value is too small for the narrow integer is not looked at. -/
theorem small_value_not_backed :
    (∀ entry ∈ lowDepths.members, Fits 64 entry.value) ∧ ¬lowDepths.IsBacked "Gdk" := by
  refine ⟨by decide, ?_⟩
  intro ⟨bits, declared, each, _⟩
  rw [enumeration_backing] at declared
  cases declared
  exact absurd (each ⟨"lowest", -2147483649⟩ (by decide)) (by decide)

end ZigBindings
