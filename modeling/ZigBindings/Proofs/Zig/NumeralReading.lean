import Mathlib.Data.List.DropRight
import ZigBindings.Proofs.Repository.Readings
import ZigBindings.Proofs.Text.Numeral
import ZigBindings.Zig.Container

/-!
# Numerals are read back

The value of a member and the size of an array may be spelled in many ways: with blanks around, with
a sign, in the digits of any script, with zeros in front, with underscores between the digits. They
are written in one way only, and what is written is read as the same number again. That a numeral
can be too long does not matter here, since no number that has been read is longer in its digits.
-/

namespace ZigBindings.Text

/-- Digits of any script with an underscore between some of them, and their values. -/
inductive AreDigits : List Char → List Nat → Prop
  | last {c : Char} {value : Nat} (digit : digitValue? c = some value) : AreDigits [c] [value]
  | next {c : Char} {value : Nat} {rest : List Char} {values : List Nat}
      (digit : digitValue? c = some value) (others : AreDigits rest values) :
      AreDigits (c :: rest) (value :: values)
  | joined {c : Char} {value : Nat} {rest : List Char} {values : List Nat}
      (digit : digitValue? c = some value) (others : AreDigits rest values) :
      AreDigits (c :: '_' :: rest) (value :: values)

/-- Digits, not too many of them, behind a sign or without one. -/
inductive IsSigned : List Char → Int → Prop
  | plain {digits : List Char} {values : List Nat} (spelled : AreDigits digits values)
      (short : values.length ≤ digitLimit) : IsSigned digits (ofDigits values)
  | plus {digits : List Char} {values : List Nat} (spelled : AreDigits digits values)
      (short : values.length ≤ digitLimit) : IsSigned ('+' :: digits) (ofDigits values)
  | minus {digits : List Char} {values : List Nat} (spelled : AreDigits digits values)
      (short : values.length ≤ digitLimit) : IsSigned ('-' :: digits) (-(ofDigits values : Int))

/-- What may be written for a number: its digits with a sign or without, and blanks around them. -/
inductive IsNumeral : List Char → Int → Prop
  | around {before core behind : List Char} {number : Int} (blankBefore : ∀ c ∈ before, isBlank c)
      (signed : IsSigned core number) (blankBehind : ∀ c ∈ behind, isBlank c) :
      IsNumeral (before ++ core ++ behind) number

/-- What is written for a number: ASCII digits, the first of which is a zero only if it is alone,
and a minus in front of them or none, but none in front of zero. -/
inductive IsCanonical : List Char → Prop
  | zero : IsCanonical ['0']
  | positive {first : Char} {rest : List Char} (nonzero : first ≠ '0')
      (digits : ∀ c ∈ first :: rest, c.isDigit) : IsCanonical (first :: rest)
  | negative {first : Char} {rest : List Char} (nonzero : first ≠ '0')
      (digits : ∀ c ∈ first :: rest, c.isDigit) : IsCanonical ('-' :: first :: rest)

section Digits

theorem areDigits_of_later {c : Char} {value : Nat} {rest : List Char} {values : List Nat}
    (digit : digitValue? c = some value) (later : laterDigits? rest = some values) :
    AreDigits (c :: rest) (value :: values) := by
  fun_induction laterDigits? rest generalizing c value values with
  | case1 =>
      cases later
      exact .last digit
  | case2 d behind ih =>
      simp only [Option.bind_eq_bind, Option.bind_eq_some_iff] at later
      obtain ⟨next, found, others, remaining, same⟩ := later
      cases same
      exact .joined digit (ih found remaining)
  | case3 d behind _ ih =>
      simp only [Option.bind_eq_bind, Option.bind_eq_some_iff] at later
      obtain ⟨next, found, others, remaining, same⟩ := later
      cases same
      exact .next digit (ih found remaining)

theorem later_of_digits_read {text : List Char} {values : List Nat}
    (read : digits? text = some values) :
    laterDigits? text = some values ∧ laterDigits? ('_' :: text) = some values := by
  cases text with
  | nil => cases read
  | cons c rest =>
      have plain : c ≠ '_' := by
        rintro rfl
        have none : digitValue? '_' = none := by decide
        rw [digits?, none] at read
        cases read
      refine ⟨?_, read⟩
      rw [laterDigits?]
      · exact read
      · exact fun _ _ same => absurd same plain

theorem digits_eq_some_iff {text : List Char} {values : List Nat} :
    digits? text = some values ↔ AreDigits text values := by
  constructor
  · intro read
    cases text with
    | nil => cases read
    | cons c rest =>
        simp only [digits?, Option.bind_eq_bind, Option.bind_eq_some_iff] at read
        obtain ⟨value, digit, others, later, same⟩ := read
        cases same
        exact areDigits_of_later digit later
  · intro digits
    induction digits with
    | last digit => simp [digits?, digit, laterDigits?]
    | next digit _ ih => simp [digits?, digit, (later_of_digits_read ih).1]
    | joined digit _ ih => simp [digits?, digit, (later_of_digits_read ih).2]

theorem natural_eq_some_iff {text : List Char} {number : Nat} :
    natural? text = some number ↔
      ∃ values, AreDigits text values ∧ values.length ≤ digitLimit ∧ ofDigits values = number := by
  simp only [natural?, Option.bind_eq_bind, Option.bind_eq_some_iff, digits_eq_some_iff,
    Option.ite_none_right_eq_some, Option.some.injEq]

theorem digits_of_signed {digits : List Char} {sign : Nat → Int} {number : Int}
    (read : (natural? digits).map sign = some number) :
    ∃ values, AreDigits digits values ∧ values.length ≤ digitLimit ∧
      number = sign (ofDigits values) := by
  obtain ⟨size, natural, rfl⟩ := Option.map_eq_some_iff.mp read
  obtain ⟨values, spelled, short, rfl⟩ := natural_eq_some_iff.mp natural
  exact ⟨values, spelled, short, rfl⟩

theorem ink_of_digit_value {c : Char} {value : Nat} (digit : digitValue? c = some value) :
    isBlank c = false := by
  have apart : ∀ start ∈ digitZeros, ∀ range ∈ blankRanges,
      start + 9 < range.1 ∨ range.2 < start := by decide +kernel
  obtain ⟨start, found, _⟩ := Option.map_eq_some_iff.mp digit
  have bounds := List.find?_some found
  simp only [Bool.and_eq_true, decide_eq_true_eq] at bounds
  rw [isBlank, Bool.eq_false_iff]
  intro blank
  obtain ⟨range, listed, low, high⟩ := inRanges_iff.mp blank
  have separate := apart start (List.mem_of_find?_eq_some found) range listed
  omega

theorem AreDigits.ends {text : List Char} {values : List Nat} (digits : AreDigits text values) :
    (∃ c value, text.head? = some c ∧ digitValue? c = some value) ∧
      ∃ c value, text.getLast? = some c ∧ digitValue? c = some value := by
  induction digits with
  | last digit => exact ⟨⟨_, _, rfl, digit⟩, ⟨_, _, rfl, digit⟩⟩
  | next digit others ih =>
      obtain ⟨_, c, value, last, found⟩ := ih
      refine ⟨⟨_, _, rfl, digit⟩, c, value, ?_, found⟩
      rw [List.getLast?_cons, last]
      rfl
  | joined digit others ih =>
      obtain ⟨_, c, value, last, found⟩ := ih
      refine ⟨⟨_, _, rfl, digit⟩, c, value, ?_, found⟩
      rw [List.getLast?_cons, List.getLast?_cons, last]
      rfl

end Digits

section Signs

variable {text core before behind : List Char} {number : Int}

theorem trim_blank_between (text : List Char) :
    ∃ before behind, text = before ++ trimBlank text ++ behind ∧ (∀ c ∈ before, isBlank c) ∧
      ∀ c ∈ behind, isBlank c := by
  refine ⟨text.takeWhile isBlank, (text.dropWhile isBlank).rtakeWhile isBlank, ?_, ?_, ?_⟩
  · have inner := List.rdropWhile_append_rtakeWhile (p := isBlank) (l := text.dropWhile isBlank)
    rw [List.append_assoc, trimBlank, ← List.rdropWhile, inner, List.takeWhile_append_dropWhile]
  · exact fun c member => List.mem_takeWhile_imp member
  · exact fun c member => List.mem_rtakeWhile_imp member

theorem trim_blank_around (blankBefore : ∀ c ∈ before, isBlank c)
    (first : ∃ c, core.head? = some c ∧ isBlank c = false)
    (last : ∃ c, core.getLast? = some c ∧ isBlank c = false)
    (blankBehind : ∀ c ∈ behind, isBlank c) : trimBlank (before ++ core ++ behind) = core := by
  obtain ⟨c, head, ink⟩ := first
  obtain ⟨d, tail, ink'⟩ := last
  obtain ⟨rest, opened⟩ := List.head?_eq_some_iff.mp head
  obtain ⟨front, closed⟩ := List.getLast?_eq_some_iff.mp tail
  have left : (before ++ core ++ behind).dropWhile isBlank = core ++ behind := by
    rw [List.append_assoc, List.dropWhile_append_of_pos blankBefore, opened, List.cons_append,
      List.dropWhile_cons_of_neg (by simp [ink])]
  have right : (core ++ behind).reverse.dropWhile isBlank = core.reverse := by
    rw [List.reverse_append, List.dropWhile_append_of_pos (by simpa using blankBehind), closed,
      List.reverse_append, List.reverse_singleton, List.singleton_append,
      List.dropWhile_cons_of_neg (by simp [ink'])]
  rw [trimBlank, left, right, List.reverse_reverse]

theorem IsSigned.ends (signed : IsSigned core number) :
    (∃ c, core.head? = some c ∧ isBlank c = false) ∧
      ∃ c, core.getLast? = some c ∧ isBlank c = false := by
  cases signed with
  | plain spelled _ =>
      obtain ⟨⟨c, _, head, digit⟩, d, _, last, digit'⟩ := spelled.ends
      exact ⟨⟨c, head, ink_of_digit_value digit⟩, d, last, ink_of_digit_value digit'⟩
  | plus spelled _ =>
      obtain ⟨_, d, _, last, digit⟩ := spelled.ends
      exact ⟨⟨'+', rfl, by decide⟩, d, by rw [List.getLast?_cons, last]; rfl,
        ink_of_digit_value digit⟩
  | minus spelled _ =>
      obtain ⟨_, d, _, last, digit⟩ := spelled.ends
      exact ⟨⟨'-', rfl, by decide⟩, d, by rw [List.getLast?_cons, last]; rfl,
        ink_of_digit_value digit⟩

theorem integer_of_minus {rest : List Char} (trimmed : trimBlank text = '-' :: rest) :
    integer? text = (natural? rest).map fun magnitude : Nat => -(magnitude : Int) := by
  have opened : integer? text =
      (do let magnitude ← natural? rest; pure (magnitude : Int)).map (- ·) := by
    simp only [integer?, trimmed]
  rw [opened]
  cases natural? rest <;> rfl

theorem integer_of_plus {rest : List Char} (trimmed : trimBlank text = '+' :: rest) :
    integer? text = (natural? rest).map Int.ofNat := by
  simp only [integer?, trimmed]

theorem integer_of_unsigned (minus : (trimBlank text).head? ≠ some '-')
    (plus : (trimBlank text).head? ≠ some '+') :
    integer? text = (natural? (trimBlank text)).map Int.ofNat := by
  unfold integer?
  split
  · rename_i spelled
    exact absurd (by rw [spelled]; rfl) minus
  · rename_i spelled
    exact absurd (by rw [spelled]; rfl) plus
  · rfl

/-- A number is read from a text if its digits stand between the blanks, behind a sign or without
one. -/
theorem integer_eq_some_iff_signed :
    integer? text = some number ↔ IsSigned (trimBlank text) number := by
  constructor
  · intro read
    by_cases minus : (trimBlank text).head? = some '-'
    · obtain ⟨rest, trimmed⟩ := List.head?_eq_some_iff.mp minus
      rw [integer_of_minus trimmed] at read
      obtain ⟨values, digits, short, rfl⟩ := digits_of_signed read
      exact trimmed ▸ .minus digits short
    by_cases plus : (trimBlank text).head? = some '+'
    · obtain ⟨rest, trimmed⟩ := List.head?_eq_some_iff.mp plus
      rw [integer_of_plus trimmed] at read
      obtain ⟨values, digits, short, rfl⟩ := digits_of_signed read
      exact trimmed ▸ .plus digits short
    · rw [integer_of_unsigned minus plus] at read
      obtain ⟨values, digits, short, rfl⟩ := digits_of_signed read
      exact .plain digits short
  · intro signed
    have natural {digits : List Char} {values : List Nat} (spelled : AreDigits digits values)
        (short : values.length ≤ digitLimit) : natural? digits = some (ofDigits values) :=
      natural_eq_some_iff.mpr ⟨values, spelled, short, rfl⟩
    generalize trimmed : trimBlank text = core at signed
    cases signed with
    | plain spelled short =>
        -- A sign is no digit, so the digits are not taken for signed ones.
        obtain ⟨⟨c, _, head, digit⟩, _⟩ := spelled.ends
        have other : ∀ sign, digitValue? sign = none → (trimBlank text).head? ≠ some sign := by
          intro sign none same
          rw [trimmed, head] at same
          cases same
          rw [none] at digit
          cases digit
        rw [integer_of_unsigned (other '-' (by decide)) (other '+' (by decide)), trimmed,
          natural spelled short]
        rfl
    | plus spelled short =>
        rw [integer_of_plus trimmed, natural spelled short]
        rfl
    | minus spelled short =>
        rw [integer_of_minus trimmed, natural spelled short]
        rfl

theorem integer_eq_some_iff : integer? text = some number ↔ IsNumeral text number := by
  rw [integer_eq_some_iff_signed]
  constructor
  · intro signed
    obtain ⟨before, behind, whole, blankBefore, blankBehind⟩ := trim_blank_between text
    rw [whole]
    exact .around blankBefore signed blankBehind
  · rintro ⟨blankBefore, signed, blankBehind⟩
    rw [trim_blank_around blankBefore signed.ends.1 signed.ends.2 blankBehind]
    exact signed

end Signs

theorem decimal_canonical (number : Int) : IsCanonical (decimal number).toList := by
  have spelled {magnitude : Nat} (positive : 0 < magnitude) :
      ∃ first rest, Nat.toDigits 10 magnitude = first :: rest ∧ first ≠ '0' ∧
        ∀ c ∈ first :: rest, c.isDigit := by
    obtain ⟨first, rest, digits, nonzero⟩ := first_digit_of_positive positive
    exact ⟨first, rest, digits, nonzero, digits ▸ digits_of_number magnitude⟩
  cases number with
  | ofNat magnitude =>
      rcases Nat.eq_zero_or_pos magnitude with rfl | positive
      · exact .zero
      · obtain ⟨first, rest, digits, nonzero, all⟩ := spelled positive
        rw [decimal, String.toList_ofList, digits]
        exact .positive nonzero all
  | negSucc magnitude =>
      obtain ⟨first, rest, digits, nonzero, all⟩ := spelled (Nat.succ_pos magnitude)
      rw [decimal, String.toList_append, digits, String.toList_ofList, String.toList_ofList]
      exact .negative nonzero all

end ZigBindings.Text

namespace ZigBindings

open ZigBindings.Markup ZigBindings.Text ZigBindings.Zig

/-- The numerals that are read are those with blanks around, a sign or none, and digits of any
script, not too many, with an underscore between some of them. What is written for a number is
canonical and is read as that number, if it is not too long to be read at all, as no number is that
has been read. So the value of a member and the size of an array, however they are spelled, are
written canonically in the line of the member and in the type of the array, and a node that spells
them so is read as the same member and as an array of the same size. -/
theorem numerals_read_back :
    (∀ (text : List Char) (number : Int),
      integer? text = some number ↔ IsNumeral text number) ∧
    (∀ number : Int, IsCanonical (decimal number).toList ∧
      (IsShort number ↔ integer? (decimal number).toList = some number)) ∧
    (∀ (path : String) (node : Node) (entry : Member), Reader.member path node = .ok entry →
      ∃ text, IsCanonical text.toList ∧
        entry.line = indent 1 ++ identifier entry.name ++ " = " ++ text ++ "," ∧
        ∀ again, Reader.attribute? again "name" = some entry.name →
          Reader.attribute? again "value" = some text → Reader.member path again = .ok entry) ∧
    ∀ (path : String) (node : Node) (size : Int), Reader.arraySize path node = .ok (some size) →
      ∃ text, IsCanonical text.toList ∧
        (∀ element current, TypeRef.text current (.array element (some size)) =
          "[" ++ text ++ "]" ++ element.text current) ∧
        ∀ again, Reader.attribute? again "fixed-size" = some text →
          Reader.arraySize path again = .ok (some size) := by
  refine ⟨fun _ _ => integer_eq_some_iff,
    fun number => ⟨decimal_canonical number, integer_of_decimal, short_of_integer⟩, ?_, ?_⟩
  · intro path node entry read
    obtain ⟨_, value, _, numeral⟩ := Reader.member_eq_ok_iff.mp read
    refine ⟨decimal entry.value, decimal_canonical entry.value, rfl, fun again named given => ?_⟩
    have same := integer_of_decimal (short_of_integer numeral)
    exact Reader.member_eq_ok_iff.mpr ⟨named, _, given, same⟩
  · intro path node size read
    obtain ⟨value, _, numeral⟩ := Option.map_eq_some_iff.mp (Reader.array_size_eq_ok_iff.mp read)
    refine ⟨decimal size, decimal_canonical size, fun _ _ => rfl, fun again given => ?_⟩
    have same := integer_of_decimal (short_of_integer numeral)
    rw [Reader.array_size_eq_ok_iff, given, Option.map_some, same]
    rfl

/-- A member whose value is spelled with a blank, a sign, zeros, an underscore and the digits of two
scripts, and an array whose size has zeros in front. -/
theorem numerals_read_back_mixed :
    (Reader.member "" (.element (core "member")
        [(⟨none, "name"⟩, "low"), (⟨none, "value"⟩, "\u00a0-00_1\u0662\n")] []) =
          .ok ⟨"low", -12⟩ ∧
      ∃ text, Member.line ⟨"low", -12⟩ = indent 1 ++ identifier "low" ++ " = " ++ text ++ "," ∧
        Reader.member "" (.element (core "member")
          [(⟨none, "value"⟩, text), (⟨none, "name"⟩, "low")] []) = .ok ⟨"low", -12⟩) ∧
    Reader.arraySize "" (.element (core "array") [(⟨none, "fixed-size"⟩, "+007")] []) =
        .ok (some 7) ∧
      ∃ text, TypeRef.text "Gtk" (.array (.simple {}) (some 7)) =
          "[" ++ text ++ "]" ++ unnamedType ∧
        Reader.arraySize "" (.element (core "array") [(⟨none, "fixed-size"⟩, text)] []) =
          .ok (some 7) := by
  obtain ⟨_, _, members, arrays⟩ := numerals_read_back
  have low : Reader.member "" (.element (core "member")
      [(⟨none, "name"⟩, "low"), (⟨none, "value"⟩, "\u00a0-00_1\u0662\n")] []) =
        .ok ⟨"low", -12⟩ := by rfl
  have seven : Reader.arraySize ""
      (.element (core "array") [(⟨none, "fixed-size"⟩, "+007")] []) = .ok (some 7) := by rfl
  obtain ⟨text, _, line, again⟩ := members _ _ _ low
  obtain ⟨size, _, array, again'⟩ := arrays _ _ _ seven
  exact ⟨⟨low, text, line, again _ rfl rfl⟩, seven, size, array _ _, again' _ rfl⟩

end ZigBindings
