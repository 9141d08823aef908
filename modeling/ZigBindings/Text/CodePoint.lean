/-!
# Code points

A set of characters is a list of closed ranges of code points. Membership is decided by a walk
over the list, so facts about a table are facts about finitely many ranges. Two kinds of characters
matter wherever numbers are read, the white space around a numeral and the decimal digits of the
scripts. Every script writes its digits as ten consecutive code points, zero first. So they are
given by their zeros, and the value of a digit is its distance from the zero of its script.
-/

namespace ZigBindings.Text

/-- A closed range of code points: its first and its last member. -/
abbrev Range := Nat × Nat

def inRanges (ranges : List Range) (code : Nat) : Bool :=
  ranges.any fun range => range.1 ≤ code && code ≤ range.2

theorem inRanges_iff {ranges : List Range} {code : Nat} :
    inRanges ranges code = true ↔ ∃ range ∈ ranges, range.1 ≤ code ∧ code ≤ range.2 := by
  simp [inRanges]

/-- The white space that may stand around a numeral (the Unicode property `White_Space`),
ascending. -/
def blankRanges : List Range :=
  [
    (0x0009, 0x000D), (0x0020, 0x0020), (0x0085, 0x0085), (0x00A0, 0x00A0), (0x1680, 0x1680),
    (0x2000, 0x200A), (0x2028, 0x2029), (0x202F, 0x202F), (0x205F, 0x205F), (0x3000, 0x3000)
  ]

def isBlank (c : Char) : Bool :=
  inRanges blankRanges c.toNat

/-- The code points of the digits zero (general category `Nd`), ascending. -/
def digitZeros : List Nat :=
  [
    0x0030, 0x0660, 0x06F0, 0x07C0, 0x0966, 0x09E6, 0x0A66, 0x0AE6, 0x0B66, 0x0BE6, 0x0C66, 0x0CE6,
    0x0D66, 0x0DE6, 0x0E50, 0x0ED0, 0x0F20, 0x1040, 0x1090, 0x17E0, 0x1810, 0x1946, 0x19D0, 0x1A80,
    0x1A90, 0x1B50, 0x1BB0, 0x1C40, 0x1C50, 0xA620, 0xA8D0, 0xA900, 0xA9D0, 0xA9F0, 0xAA50, 0xABF0,
    0xFF10, 0x104A0, 0x10D30, 0x11066, 0x110F0, 0x11136, 0x111D0, 0x112F0, 0x11450, 0x114D0,
    0x11650, 0x116C0, 0x11730, 0x118E0, 0x11950, 0x11C50, 0x11D50, 0x11DA0, 0x16A60, 0x16AC0,
    0x16B50, 0x1D7CE, 0x1D7D8, 0x1D7E2, 0x1D7EC, 0x1D7F6, 0x1E140, 0x1E2F0, 0x1E950, 0x1FBF0
  ]

def digitValue? (c : Char) : Option Nat :=
  (digitZeros.find? fun start => start ≤ c.toNat && c.toNat ≤ start + 9).map (c.toNat - ·)

theorem digitValue?_lt {c : Char} {value : Nat} (isDigit : digitValue? c = some value) :
    value < 10 := by
  unfold digitValue? at isDigit
  obtain ⟨start, found, rfl⟩ := Option.map_eq_some_iff.1 isDigit
  have bounds := List.find?_some found
  simp only [Bool.and_eq_true, decide_eq_true_eq] at bounds
  omega

end ZigBindings.Text
