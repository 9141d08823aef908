import Mathlib.Data.List.Perm.Subperm
import ZigBindings.Proofs.Zig.Backing
import ZigBindings.Proofs.Zig.IdentifierReading

/-!
# Flags in packed structures

The fields of a packed structure lie in its integer one above the other, the first of them in the
lowest bits. A set of flags is declared as such a structure with one bit for each flag, in the order
of the members, and with what is left of the integer as padding. The bits are those of the C flags
only where the members give the powers of two from the first one on, none left out and each in its
turn; in any other set of flags some bit stands for another value. Where the flags are single bits
of the integer, each of them once, the fields fill it.
-/

namespace ZigBindings

open ZigBindings.Text ZigBindings.Zig

/-- What a field of a packed structure holds: one bit, or an unsigned number. -/
inductive PackedType where
  | bool
  | unsigned (bits : Nat)
  deriving DecidableEq

structure PackedField where
  name : String
  type : PackedType
  deriving DecidableEq

/-- A packed structure: the bits of its integer, and its fields from the lowest bits on. -/
structure PackedStruct where
  backing : Nat
  fields : List PackedField

def packedType? : List Char → Option PackedType
  | ':' :: ' ' :: 'u' :: rest =>
    if rest.dropWhile (· ≠ ' ') = " = 0,".toList then
      (natural? (rest.takeWhile (· ≠ ' '))).map .unsigned
    else none
  | rest => if rest = ": bool = false,".toList then some .bool else none

def packedField? (line : String) : Option PackedField := do
  let (name, rest) ← readIdentifier (unindented line)
  let type ← packedType? rest
  some ⟨name, type⟩

def packedFields? : List String → Option (List PackedField)
  | [] => none
  | line :: rest =>
    if line = "" then some [] else do
      let field ← packedField? line
      let fields ← packedFields? rest
      some (field :: fields)

def packedStruct? : List String → Option PackedStruct
  | [] => none
  | first :: rest => do
    let backing ← backingBits? "packed struct" first
    let fields ← packedFields? rest
    some ⟨backing, fields⟩

/-- The names of the fields of one bit, each with the number of bits that precede it, if so many
precede the first field. -/
def boolsFrom (before : Nat) : List PackedField → List (String × Nat)
  | [] => []
  | ⟨name, .bool⟩ :: rest => (name, before) :: boolsFrom (before + 1) rest
  | ⟨_, .unsigned bits⟩ :: rest => boolsFrom (before + bits) rest

def PackedStruct.bools (packed : PackedStruct) : List (String × Nat) :=
  boolsFrom 0 packed.fields

/-- Numbers with a single bit each, no bit twice and none from the limit on. -/
def AreBits (limit : Nat) (values : List Int) : Prop :=
  values.Nodup ∧ ∀ value ∈ values, ∃ bit < limit, value = 2 ^ bit

/-- The members of a set of flags that have a bit. -/
def Enumeration.nonzero (type : Enumeration) : List Member :=
  type.members.filter fun entry => entry.value ≠ 0

/-- Whether each member other than zero has a field of one bit under its name, and that bit alone
makes the value of the member. -/
def Enumeration.IsPlaced (type : Enumeration) (current : String) : Prop :=
  ∃ packed, packedStruct? (type.flagLines current) = some packed ∧
    ∀ entry ∈ type.nonzero, ∃ bit, (entry.name, bit) ∈ packed.bools ∧ entry.value = 2 ^ bit

section Reading

def Member.flagField (entry : Member) : PackedField :=
  ⟨entry.name, .bool⟩

def Enumeration.paddingFields (type : Enumeration) : List PackedField :=
  if 0 < type.padding then [⟨"_padding", .unsigned type.padding.toNat⟩] else []

theorem packed_field_of_line {name rest : String} {type : PackedType}
    (sign : rest.toList.head? = some ':') (read : packedType? rest.toList = some type) :
    packedField? (indent 1 ++ (identifier name ++ rest)) = some ⟨name, type⟩ := by
  rw [packedField?, unindented_indent, read_unindented sign rfl]
  show (packedType? rest.toList).bind _ = _
  rw [read]
  rfl

theorem packed_field_of_flag (entry : Member) :
    packedField? entry.flagLine = some entry.flagField := by
  rw [Member.flagLine, String.append_assoc]
  exact packed_field_of_line rfl rfl

theorem packed_type_of_unsigned {bits : Nat}
    (short : (Nat.toDigits 10 bits).length ≤ digitLimit) :
    packedType? (": u" ++ (decimal bits ++ " = 0,")).toList = some (.unsigned bits) := by
  have spelled : (": u" ++ (decimal bits ++ " = 0,")).toList =
      ':' :: ' ' :: 'u' :: (Nat.toDigits 10 bits ++ " = 0,".toList) := by
    simp [decimal]
  have digits : ∀ c ∈ Nat.toDigits 10 bits, decide (c ≠ ' ') = true := by
    intro c member
    have digit := digits_of_number bits c member
    apply decide_eq_true
    intro same
    rw [same] at digit
    exact absurd digit (by decide)
  have front : Nat.toDigits 10 bits ++ " = 0,".toList.takeWhile (· ≠ ' ') =
      Nat.toDigits 10 bits := List.append_nil _
  rw [spelled, packedType?, List.dropWhile_append_of_pos digits,
    List.takeWhile_append_of_pos digits, front, natural_of_digits short]
  rfl

theorem packed_field_of_padding {type : Enumeration} (left : 0 < type.padding) :
    packedField? (indent 1 ++ "_padding: u" ++ decimal type.padding ++ " = 0,") =
      some ⟨"_padding", .unsigned type.padding.toNat⟩ := by
  have most : type.padding ≤ 64 := by
    unfold Enumeration.padding
    cases tagWidth type.members <;> simp only [TagWidth.bits] <;> omega
  have short : (Nat.toDigits 10 type.padding.toNat).length ≤ digitLimit := by
    have two := (Nat.length_toDigits_le_iff (b := 10) (k := 2) (by decide) (by decide)).mpr
      (show type.padding.toNat < 10 ^ 2 by omega)
    exact Nat.le_trans two (by decide)
  have name : identifier "_padding" = "_padding" := identifier_of_bare (by decide)
  have spelled : indent 1 ++ "_padding: u" ++ decimal type.padding ++ " = 0," =
      indent 1 ++ (identifier "_padding" ++
        (": u" ++ (decimal type.padding.toNat ++ " = 0,"))) := by
    rw [name, Int.toNat_of_nonneg (Int.le_of_lt left)]
    simp [← String.append_assoc]
  rw [spelled]
  exact packed_field_of_line (by simp) (packed_type_of_unsigned short)

theorem packed_fields_cons {line : String} {field : PackedField} {fields : List PackedField}
    {rest : List String} (first : packedField? line = some field)
    (read : packedFields? rest = some fields) :
    packedFields? (line :: rest) = some (field :: fields) := by
  have written : line ≠ "" := by
    intro blank
    rw [blank] at first
    cases first
  rw [packedFields?, if_neg written, first, read]
  rfl

theorem packed_fields_of_flags (flags : List Member) {fields : List PackedField}
    {rest : List String} (read : packedFields? rest = some fields) :
    packedFields? (flags.map Member.flagLine ++ rest) =
      some (flags.map Member.flagField ++ fields) := by
  induction flags with
  | nil => exact read
  | cons entry others ih => exact packed_fields_cons (packed_field_of_flag entry) ih

/-- The structure that is read from the lines of a set of flags, whatever names they hold: one bit
for each flag in order, and the padding. -/
theorem packed_struct_of_flags (type : Enumeration) (current : String) :
    packedStruct? (type.flagLines current) =
      some ⟨(tagWidth type.members).bits,
        type.flags.map Member.flagField ++ type.paddingFields⟩ := by
  have ended : packedFields? (type.tail current) = some [] := rfl
  have padding : packedFields? ((if 0 < type.padding then
      [indent 1 ++ "_padding: u" ++ decimal type.padding ++ " = 0,"] else []) ++
        type.tail current) = some type.paddingFields := by
    unfold Enumeration.paddingFields
    split
    · rename_i left
      exact packed_fields_cons (packed_field_of_padding left) ended
    · exact ended
  have first : "pub const " ++ type.name ++ " = packed struct(" ++
      (tagWidth type.members).text ++ ") \x7b" =
      "pub const " ++ type.name ++ backingEnd "packed struct" (tagWidth type.members).text := by
    simp [backingEnd, ← String.append_assoc]
  rw [Enumeration.flagLines, first, List.append_assoc, List.append_assoc, List.singleton_append,
    packedStruct?, backing_of_end, packed_fields_of_flags type.flags padding]
  rfl

end Reading

section Places

theorem bools_from_flags (flags : List Member) {others : List PackedField} (before : Nat)
    (none : ∀ before, boolsFrom before others = []) :
    boolsFrom before (flags.map Member.flagField ++ others) =
      (flags.map Member.name).zipIdx before := by
  induction flags generalizing before with
  | nil => exact none before
  | cons entry rest ih =>
      rw [List.map_cons, List.map_cons, List.zipIdx_cons, ← ih]
      rfl

theorem bools_of_flags (type : Enumeration) (backing : Nat) :
    PackedStruct.bools ⟨backing, type.flags.map Member.flagField ++ type.paddingFields⟩ =
      (type.flags.map Member.name).zipIdx := by
  apply bools_from_flags
  intro before
  unfold Enumeration.paddingFields
  split <;> rfl

theorem flags_of_bits {type : Enumeration}
    (bits : ∀ entry ∈ type.nonzero, ∃ bit : Nat, entry.value = 2 ^ bit) :
    type.nonzero = type.flags := by
  apply List.filter_congr
  intro entry member
  by_cases zero : entry.value = 0
  · simp [zero]
  · obtain ⟨bit, value⟩ := bits entry (List.mem_filter.mpr ⟨member, decide_eq_true zero⟩)
    have positive : 0 < entry.value := value ▸ Int.pow_pos (by decide)
    simp [zero, positive]

theorem places_of_flags {type : Enumeration} {current : String} :
    type.IsPlaced current ↔
      ∀ entry ∈ type.nonzero, ∃ bit, (type.flags.map Member.name)[bit]? = some entry.name ∧
        entry.value = 2 ^ bit := by
  unfold Enumeration.IsPlaced
  rw [packed_struct_of_flags]
  simp only [Option.some.injEq, exists_eq_left', bools_of_flags, List.mem_zipIdx_iff_getElem?]

/-- A flag is found by its name at its own place only. -/
theorem placed_iff_in_turn {type : Enumeration} (current : String)
    (distinct : (type.nonzero.map Member.name).Nodup) :
    type.IsPlaced current ↔
      type.nonzero.map Member.value = (List.range type.nonzero.length).map (2 ^ ·) := by
  rw [places_of_flags]
  constructor
  · intro places
    have flags : type.nonzero = type.flags := by
      apply flags_of_bits
      intro entry member
      obtain ⟨bit, _, value⟩ := places entry member
      exact ⟨bit, value⟩
    rw [flags] at places distinct ⊢
    apply List.ext_getElem (by simp)
    intro index inside _
    rw [List.length_map] at inside
    obtain ⟨bit, found, value⟩ := places type.flags[index] (List.getElem_mem inside)
    have own : (type.flags.map Member.name)[index]? = some type.flags[index].name := by
      simp [inside]
    -- No other flag has the name, so that the bit which the name is found at is its own.
    have same : index = bit :=
      (List.getElem?_inj (by simpa using inside) distinct).mp (own.trans found.symm)
    rw [List.getElem_map, value, List.getElem_map, List.getElem_range, same]
  · intro values
    have flags : type.nonzero = type.flags := by
      apply flags_of_bits
      intro entry member
      have value := List.mem_map_of_mem (f := Member.value) member
      rw [values] at value
      obtain ⟨bit, _, same⟩ := List.mem_map.mp value
      exact ⟨bit, same.symm⟩
    rw [flags] at values ⊢
    intro entry member
    obtain ⟨index, inside, same⟩ := List.mem_iff_getElem.mp member
    have name : (type.flags.map Member.name)[index]? = some entry.name := by
      simp [inside, same]
    have value : entry.value = 2 ^ index := by
      simpa [inside, same] using congrArg (fun list => list[index]?) values
    exact ⟨index, name, value⟩

end Places

/-- The bits of a set of flags are given to its positive members in order, the lowest to the first,
whatever their values are. So, where no two members have one name, each flag has the bit of its
value if the members other than zero are the powers of two in their turn, from the first one on, and
in no other case. -/
theorem flags_placed_in_order (type : Enumeration) (current : String) :
    (∃ packed, packedStruct? (type.flagLines current) = some packed ∧
      packed.bools = (type.flags.map Member.name).zipIdx) ∧
    ((type.nonzero.map Member.name).Nodup →
      (type.IsPlaced current ↔
        type.nonzero.map Member.value = (List.range type.nonzero.length).map (2 ^ ·))) :=
  ⟨⟨_, packed_struct_of_flags type current, bools_of_flags type _⟩,
    placed_iff_in_turn current⟩

def stateFlags : Enumeration where
  name := "StateFlags"
  members := [⟨"active", 1⟩, ⟨"normal", 0⟩, ⟨"prelight", 2⟩]

theorem flags_placed_in_order_state :
    (stateFlags.nonzero.map Member.name).Nodup ∧ stateFlags.IsPlaced "Gtk" ∧
      ∃ packed, packedStruct? (stateFlags.flagLines "Gtk") = some packed ∧
        packed.bools = [("active", 0), ("prelight", 1)] := by
  have distinct : (stateFlags.nonzero.map Member.name).Nodup := by decide
  obtain ⟨inOrder, placed⟩ := flags_placed_in_order stateFlags "Gtk"
  exact ⟨distinct, (placed distinct).mpr (by decide), inOrder⟩

/-- Two flags, the higher of them first. -/
def crossedFlags : Enumeration where
  name := "StateFlags"
  members := [⟨"prelight", 2⟩, ⟨"active", 1⟩]

/-- A flag without flags for the bits below its own. -/
def lateFlags : Enumeration where
  name := "DialogFlags"
  members := [⟨"none", 0⟩, ⟨"bar", 4⟩]

/-- Flags are not always placed: those of an order of their own are not, nor are those that leave a
bit out. -/
theorem bits_out_of_place :
    (AreBits 63 (crossedFlags.nonzero.map Member.value) ∧ ¬crossedFlags.IsPlaced "Gtk") ∧
      AreBits 63 (lateFlags.nonzero.map Member.value) ∧ ¬lateFlags.IsPlaced "Gtk" := by
  refine ⟨⟨?_, ?_⟩, ?_, ?_⟩
  · exact ⟨by decide, by decide⟩
  · rw [placed_iff_in_turn "Gtk" (by decide)]
    decide
  · exact ⟨by decide, by decide⟩
  · rw [placed_iff_in_turn "Gtk" (by decide)]
    decide

section Room

theorem bits_length_le {limit : Nat} {values : List Int} (bits : AreBits limit values) :
    values.length ≤ limit := by
  have among : values ⊆ (List.range limit).map (2 ^ ·) := by
    intro value member
    obtain ⟨bit, below, same⟩ := bits.2 value member
    exact List.mem_map.mpr ⟨bit, List.mem_range.mpr below, same.symm⟩
  have fewer := bits.1.length_le_of_subset among
  rwa [List.length_map, List.length_range] at fewer

theorem AreBits.below {limit lower : Nat} {values : List Int} (bits : AreBits limit values)
    (small : ∀ value ∈ values, value < 2 ^ lower) : AreBits lower values := by
  refine ⟨bits.1, ?_⟩
  intro value member
  obtain ⟨bit, _, same⟩ := bits.2 value member
  have smaller := small value member
  rw [same] at smaller
  have power : 2 ^ bit < 2 ^ lower := by exact_mod_cast smaller
  exact ⟨bit, (Nat.pow_lt_pow_iff_right Nat.one_lt_two).mp power, same⟩

/-- There are no more flags than bits in the integer: the narrow one is taken only if no flag has
its highest bit or one beyond. -/
theorem flags_length_le {type : Enumeration} (bits : AreBits 64 (type.flags.map Member.value)) :
    type.flags.length ≤ (tagWidth type.members).bits := by
  have most := bits_length_le bits
  obtain ⟨wide, _⟩ | ⟨narrow, small⟩ := tag_width_cases type.members
  · rw [wide]
    simpa [TagWidth.bits] using most
  · have lower : AreBits 31 (type.flags.map Member.value) := by
      apply bits.below
      intro value member
      obtain ⟨entry, flag, rfl⟩ := List.mem_map.mp member
      exact small entry (List.mem_filter.mp flag).1
    have fewer := bits_length_le lower
    rw [List.length_map] at fewer
    rw [narrow]
    show type.flags.length ≤ 32
    omega

end Room

/-- Where the positive members have single bits of 64, each its own, the fields of the structure
fill its integer: they are one bit for each positive member and, unless these are all its bits,
padding of one bit or more for those that are left. -/
theorem flags_fill_integer (type : Enumeration) (current : String)
    (bits : AreBits 64 (type.flags.map Member.value)) :
    ∃ packed padding, packedStruct? (type.flagLines current) = some packed ∧
      (packed.backing = 32 ∨ packed.backing = 64) ∧
      packed.fields = type.flags.map (⟨·.name, .bool⟩) ++ padding ∧
      (padding = [] ∧ type.flags.length = packed.backing ∨
        ∃ left, 0 < left ∧ padding = [⟨"_padding", .unsigned left⟩] ∧
          type.flags.length + left = packed.backing) := by
  refine ⟨_, type.paddingFields, packed_struct_of_flags type current, ?_, rfl, ?_⟩
  · cases tagWidth type.members
    · exact .inl rfl
    · exact .inr rfl
  · have room := flags_length_le bits
    have left : type.padding = (tagWidth type.members).bits - type.flags.length := rfl
    unfold Enumeration.paddingFields
    split
    · exact .inr ⟨_, by omega, rfl, by simp only; omega⟩
    · exact .inl ⟨rfl, by simp only; omega⟩

/-- The highest bit of 64 and the lowest, with a zero and a negative number between them. -/
def edgeFlags : Enumeration where
  name := "EdgeFlags"
  members := [⟨"last", 9223372036854775808⟩, ⟨"none", 0⟩, ⟨"mask", -1⟩, ⟨"first", 1⟩]

theorem flags_fill_integer_edges :
    AreBits 64 (edgeFlags.flags.map Member.value) ∧
      ∃ packed left, packedStruct? (edgeFlags.flagLines "Gdk") = some packed ∧ 0 < left ∧
        packed.fields = [⟨"last", .bool⟩, ⟨"first", .bool⟩, ⟨"_padding", .unsigned left⟩] ∧
        2 + left = packed.backing := by
  have bits : AreBits 64 (edgeFlags.flags.map Member.value) := ⟨by decide, by decide⟩
  obtain ⟨packed, padding, read, backing, fields, full | ⟨left, positive, rest, filled⟩⟩ :=
    flags_fill_integer edgeFlags "Gdk" bits
  · have two : 2 = packed.backing := full.2
    omega
  · rw [rest] at fields
    exact ⟨bits, packed, left, read, positive, fields, filled⟩

end ZigBindings
