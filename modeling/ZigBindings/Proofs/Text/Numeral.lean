import Mathlib.Algebra.Group.Nat.Defs
import Mathlib.Data.List.Basic
import ZigBindings.Text.Numeral

/-!
# Numerals

A number that is written and read again is the same number, if its numeral is not longer than what
is read. No other numbers are read.
-/

namespace ZigBindings.Text

def IsShort (number : Int) : Prop :=
  (Nat.toDigits 10 number.natAbs).length ≤ digitLimit

instance (number : Int) : Decidable (IsShort number) :=
  inferInstanceAs (Decidable (_ ≤ _))

theorem digits_of_number (number : Nat) : ∀ c ∈ Nat.toDigits 10 number, c.isDigit :=
  fun _ => Nat.isDigit_of_mem_toDigits (by decide) (by decide)

theorem code_of_digit {c : Char} (digit : c.isDigit) : 48 ≤ c.toNat ∧ c.toNat ≤ 57 := by
  simp only [Char.isDigit, Bool.and_eq_true, decide_eq_true_eq] at digit
  exact ⟨UInt32.le_iff_toNat_le.mp digit.1, UInt32.le_iff_toNat_le.mp digit.2⟩

theorem value_of_digit {c : Char} (digit : c.isDigit) :
    digitValue? c = some (c.toNat - '0'.toNat) := by
  have bounds := code_of_digit digit
  unfold digitValue? digitZeros
  rw [List.find?_cons_of_pos (by simp [bounds.1, bounds.2])]
  rfl

theorem later_digits_of_digits {text : List Char} (digits : ∀ c ∈ text, c.isDigit) :
    laterDigits? text = some (text.map fun c => c.toNat - '0'.toNat) := by
  induction text with
  | nil => rfl
  | cons c rest ih =>
      obtain ⟨digit, others⟩ := List.forall_mem_cons.mp digits
      have plain : c ≠ '_' := by
        rintro rfl
        exact absurd digit (by decide)
      unfold laterDigits?
      split
      · rename_i nothing
        cases nothing
      · rename_i same
        cases same
        exact absurd rfl plain
      · rename_i same
        cases same
        simp [value_of_digit digit, ih others]

theorem first_digit_of_positive {number : Nat} (positive : 0 < number) :
    ∃ c rest, Nat.toDigits 10 number = c :: rest ∧ c ≠ '0' := by
  induction number using Nat.strongRecOn with
  | ind number ih =>
      by_cases small : number < 10
      · have nonzero : ∀ digit < 10, 0 < digit → Nat.digitChar digit ≠ '0' := by decide
        exact ⟨_, [], Nat.toDigits_of_lt_base small, nonzero number small positive⟩
      · obtain ⟨c, rest, spelled, nonzero⟩ := ih (number / 10) (by omega) (by omega)
        refine ⟨c, rest ++ [Nat.digitChar (number % 10)], ?_, nonzero⟩
        rw [Nat.toDigits_of_base_le (by decide) (Nat.le_of_not_lt small), spelled, List.cons_append]

theorem natural_of_digits {number : Nat} (short : (Nat.toDigits 10 number).length ≤ digitLimit) :
    natural? (Nat.toDigits 10 number) = some number := by
  have digits := digits_of_number number
  have value : ofDigits ((Nat.toDigits 10 number).map fun c => c.toNat - '0'.toNat) = number := by
    rw [ofDigits, List.foldl_map]
    exact Nat.ofDigitChars_ten_toDigits
  have listed : digits? (Nat.toDigits 10 number) =
      some ((Nat.toDigits 10 number).map fun c => c.toNat - '0'.toNat) := by
    cases spelled : Nat.toDigits 10 number with
    | nil => exact absurd spelled Nat.toDigits_ne_nil
    | cons c rest =>
        rw [spelled] at digits
        obtain ⟨digit, others⟩ := List.forall_mem_cons.mp digits
        simp [digits?, value_of_digit digit, later_digits_of_digits others]
  rw [natural?, listed, Option.bind_eq_bind, Option.bind_some, List.length_map, if_pos short, value]

theorem trim_of_ink {text : List Char} (ink : ∀ c ∈ text, isBlank c = false) :
    trimBlank text = text := by
  have kept {part : List Char} (ink : ∀ c ∈ part, isBlank c = false) :
      part.dropWhile isBlank = part := by
    cases part with
    | nil => rfl
    | cons c rest => rw [List.dropWhile_cons_of_neg (by simp [ink c List.mem_cons_self])]
  rw [trimBlank, kept ink, kept fun c member => ink c (List.mem_reverse.mp member),
    List.reverse_reverse]

theorem ink_of_digit {c : Char} (digit : c.isDigit) : isBlank c = false := by
  have bounds := code_of_digit digit
  have checked : ∀ code ≤ 57, 48 ≤ code → inRanges blankRanges code = false := by decide
  exact checked c.toNat bounds.2 bounds.1

theorem integer_of_decimal {number : Int} (short : IsShort number) :
    integer? (decimal number).toList = some number := by
  cases number with
  | ofNat magnitude =>
      have trimmed := trim_of_ink fun c member => ink_of_digit (digits_of_number magnitude c member)
      rw [decimal, String.toList_ofList, integer?, trimmed]
      have first : ∀ c ∈ (Nat.toDigits 10 magnitude).head?, c ≠ '-' ∧ c ≠ '+' := by
        intro c head
        have digit := digits_of_number magnitude c (List.mem_of_mem_head? head)
        constructor <;> rintro rfl <;> exact absurd digit (by decide)
      split
      · rename_i rest spelled
        exact absurd rfl (first '-' (by rw [spelled]; rfl)).1
      · rename_i rest spelled
        exact absurd rfl (first '+' (by rw [spelled]; rfl)).2
      · rw [@natural_of_digits magnitude short]
        rfl
  | negSucc magnitude =>
      have trimmed : trimBlank ('-' :: Nat.toDigits 10 (magnitude + 1)) =
          '-' :: Nat.toDigits 10 (magnitude + 1) :=
        trim_of_ink (List.forall_mem_cons.mpr
          ⟨by decide, fun c member => ink_of_digit (digits_of_number _ c member)⟩)
      have spelled : (decimal (.negSucc magnitude)).toList =
          '-' :: Nat.toDigits 10 (magnitude + 1) := by
        simp [decimal]
      rw [spelled, integer?, trimmed]
      show (do let size ← natural? (Nat.toDigits 10 (magnitude + 1)); some (size : Int)).map
        (fun size => -size) = some (Int.negSucc magnitude)
      rw [@natural_of_digits (magnitude + 1) short]
      rfl

theorem later_digits_below {text : List Char} {values : List Nat}
    (read : laterDigits? text = some values) : ∀ value ∈ values, value < 10 := by
  fun_induction laterDigits? text generalizing values with
  | case1 =>
      cases read
      exact List.forall_mem_nil _
  | case2 c rest ih =>
      simp only [Option.bind_eq_bind, Option.bind_eq_some_iff] at read
      obtain ⟨value, digit, others, later, same⟩ := read
      cases same
      exact List.forall_mem_cons.mpr ⟨digitValue?_lt digit, ih later⟩
  | case3 c rest _ ih =>
      simp only [Option.bind_eq_bind, Option.bind_eq_some_iff] at read
      obtain ⟨value, digit, others, later, same⟩ := read
      cases same
      exact List.forall_mem_cons.mpr ⟨digitValue?_lt digit, ih later⟩

theorem of_digits_lt {values : List Nat} (digits : ∀ value ∈ values, value < 10) (start : Nat) :
    values.foldl (fun number value => 10 * number + value) start <
      (start + 1) * 10 ^ values.length := by
  induction values generalizing start with
  | nil => simp
  | cons value rest ih =>
      obtain ⟨digit, others⟩ := List.forall_mem_cons.mp digits
      have larger : 10 * start + value + 1 ≤ (start + 1) * 10 := by omega
      calc
        _ < (10 * start + value + 1) * 10 ^ rest.length := ih others _
        _ ≤ (start + 1) * 10 * 10 ^ rest.length := Nat.mul_le_mul_right _ larger
        _ = (start + 1) * 10 ^ (rest.length + 1) := by
            rw [Nat.pow_succ, Nat.mul_assoc, Nat.mul_comm 10]

theorem natural_lt {text : List Char} {number : Nat} (read : natural? text = some number) :
    number < 10 ^ digitLimit := by
  simp only [natural?, Option.bind_eq_bind, Option.bind_eq_some_iff] at read
  obtain ⟨values, listed, given⟩ := read
  split at given
  · rename_i short
    cases given
    have digits : ∀ value ∈ values, value < 10 := by
      cases text with
      | nil => cases listed
      | cons c rest =>
          simp only [digits?, Option.bind_eq_bind, Option.bind_eq_some_iff] at listed
          obtain ⟨value, digit, others, later, same⟩ := listed
          cases same
          exact List.forall_mem_cons.mpr ⟨digitValue?_lt digit, later_digits_below later⟩
    calc
      ofDigits values < (0 + 1) * 10 ^ values.length := of_digits_lt digits 0
      _ ≤ 10 ^ digitLimit := by
        rw [Nat.zero_add, Nat.one_mul]
        exact Nat.pow_le_pow_right (by decide) short
  · cases given

theorem short_of_integer {text : List Char} {number : Int} (read : integer? text = some number) :
    IsShort number := by
  have bounded : number.natAbs < 10 ^ digitLimit := by
    unfold integer? at read
    split at read
    · obtain ⟨magnitude, given, rfl⟩ := Option.map_eq_some_iff.mp read
      obtain ⟨size, listed, same⟩ := Option.bind_eq_some_iff.mp given
      cases same
      rw [Int.natAbs_neg]
      exact natural_lt listed
    · obtain ⟨magnitude, given, rfl⟩ := Option.map_eq_some_iff.mp read
      exact natural_lt given
    · obtain ⟨magnitude, given, rfl⟩ := Option.map_eq_some_iff.mp read
      exact natural_lt given
  exact (Nat.length_toDigits_le_iff (by decide) (by decide)).mpr bounded

end ZigBindings.Text
