import ZigBindings.Proofs.Text.Numeral
import ZigBindings.Proofs.Zig.Externs
import ZigBindings.Proofs.Zig.LiteralReading

/-!
# Identifiers are read back

An identifier is a word, which goes on as far as its characters do, or a literal behind an at sign.
The name that it was written for is read from it, whatever stands behind it that does not belong to
a word. A name that is written as a word is none of the words of the language, and no two fields,
members or parameters with different names are written alike.
-/

namespace ZigBindings.Zig

open ZigBindings.Text

/-- The name of the identifier that an input starts with, and what stands behind the identifier. -/
def readIdentifier : List Char → Option (String × List Char)
  | [] => none
  | '@' :: rest => readLiteral rest
  | c :: rest =>
    if isWordStart c then
      some (String.ofList (c :: rest.takeWhile isWordChar), rest.dropWhile isWordChar)
    else none

/-- The words that are no names of their own: the language uses them, or they are the integer types
of some width. -/
def IsReserved (word : String) : Prop :=
  word = "_" ∨ word ∈ keywords ∨ word ∈ primitives ∨
    ∃ width : Nat, word = "i" ++ decimal width ∨ word = "u" ++ decimal width

section Reading

variable {rest : List Char}

theorem read_word {word : List Char} (isWord : isWord word)
    (ends : ∀ c ∈ rest.head?, isWordChar c = false) :
    readIdentifier (word ++ rest) = some (String.ofList word, rest) := by
  obtain ⟨c, head, start⟩ := start_of_word isWord
  obtain ⟨others, rfl⟩ := List.head?_eq_some_iff.mp head
  obtain ⟨taken, left⟩ := word_taken (List.forall_mem_cons.mp (word_chars_of_word isWord)).2 ends
  have letter : c ≠ '@' := by
    rintro rfl
    exact absurd start (by decide)
  rw [List.cons_append, readIdentifier, if_pos start, taken, left]
  exact letter

theorem read_identifier (name : String) (ends : ∀ c ∈ rest.head?, isWordChar c = false) :
    readIdentifier ((identifier name).toList ++ rest) = some (name, rest) := by
  by_cases bare : isBareIdentifier name
  · rw [identifier_of_bare bare, read_word (word_of_bare bare) ends, String.ofList_toList]
  · have spelled : (identifier name).toList ++ rest =
        '@' :: ('"' :: (escapeString name).toList ++ '"' :: rest) := by
      simp [quoted_identifier bare, literal]
    rw [spelled]
    exact read_literal name rest

theorem identifier_injective : Function.Injective identifier := by
  intro first second same
  have ends : ∀ c ∈ ([] : List Char).head?, isWordChar c = false := by simp
  have read := read_identifier first ends
  rw [same, read_identifier second ends] at read
  exact (congrArg Prod.fst (Option.some.inj read)).symm

theorem parameter_name_injective : Function.Injective parameterName := by
  intro first second same
  exact (String.append_right_inj "p_").mp (identifier_injective same)

end Reading

section Reserved

theorem width_of_number (number : Nat) : isWidth (Nat.toDigits 10 number) := by
  rcases Nat.eq_zero_or_pos number with rfl | positive
  · rfl
  · obtain ⟨c, rest, spelled, nonzero⟩ := first_digit_of_positive positive
    have digits := digits_of_number number
    rw [spelled] at digits ⊢
    obtain ⟨digit, others⟩ := List.forall_mem_cons.mp digits
    rw [isWidth]
    · simp [digit, nonzero, List.all_eq_true.mpr others]
    · exact fun same _ => nonzero same

theorem integer_type_of_width (number : Nat) :
    isIntegerType ("i" ++ decimal number).toList ∧
      isIntegerType ("u" ++ decimal number).toList := by
  have digits : (decimal number).toList = Nat.toDigits 10 number := String.toList_ofList
  rw [String.toList_append, String.toList_append, digits]
  exact ⟨width_of_number number, width_of_number number⟩

theorem identifier_not_reserved (name : String) : ¬IsReserved (identifier name) := by
  by_cases bare : isBareIdentifier name
  · rw [identifier_of_bare bare]
    simp only [isBareIdentifier, Bool.and_eq_true, bne_iff_ne, Bool.not_eq_true',
      List.contains_eq_mem, decide_eq_false_iff_not] at bare
    obtain ⟨⟨⟨⟨notBlank, _⟩, notKeyword⟩, notPrimitive⟩, notInteger⟩ := bare
    rintro (blank | keyword | primitive | ⟨width, rfl | rfl⟩)
    · exact notBlank blank
    · exact notKeyword keyword
    · exact notPrimitive primitive
    · rw [(integer_type_of_width width).1] at notInteger
      cases notInteger
    · rw [(integer_type_of_width width).2] at notInteger
      cases notInteger
  · have head : (identifier name).toList.head? = some '@' := by
      simp [quoted_identifier bare]
    have others : ∀ word ∈ "_" :: keywords ++ primitives, word.toList.head? ≠ some '@' := by
      decide +kernel
    rintro (blank | keyword | primitive | ⟨width, integer | integer⟩)
    · exact others _ (by rw [blank]; simp) head
    · exact others _ (by simp [keyword]) head
    · exact others _ (by simp [primitive]) head
    · rw [integer] at head
      simp at head
    · rw [integer] at head
      simp at head

end Reserved

section Lines

/-- The name of the identifier that a line starts with behind its indentation. -/
def nameOf? (line : String) : Option String :=
  (readIdentifier (unindented line)).map Prod.fst

theorem identifier_ink (name : String) :
    ∃ c, (identifier name).toList.head? = some c ∧ c ≠ ' ' := by
  by_cases bare : isBareIdentifier name
  · obtain ⟨c, head, start⟩ := start_of_word (word_of_bare bare)
    rw [identifier_of_bare bare]
    refine ⟨c, head, ?_⟩
    rintro rfl
    exact absurd start (by decide)
  · exact ⟨'@', by simp [quoted_identifier bare], by decide⟩

variable {name rest : String} {c : Char}

theorem read_unindented (sign : rest.toList.head? = some c) (ends : isWordChar c = false) :
    readIdentifier (unindented (identifier name ++ rest)) = some (name, rest.toList) := by
  obtain ⟨first, head, ink⟩ := identifier_ink name
  have behind : ∀ d ∈ rest.toList.head?, isWordChar d = false := by
    rw [sign]
    rintro _ ⟨rfl⟩
    exact ends
  rw [unindented_of_head (head_of_start head) ink, String.toList_append,
    read_identifier name behind]

theorem name_of_identifier (sign : rest.toList.head? = some c) (ends : isWordChar c = false) :
    nameOf? (identifier name ++ rest) = some name := by
  rw [nameOf?, read_unindented sign ends]
  rfl

theorem name_of_indented (depth : Nat) (sign : rest.toList.head? = some c)
    (ends : isWordChar c = false) :
    nameOf? (indent depth ++ (identifier name ++ rest)) = some name := by
  rw [nameOf?, unindented_indent]
  exact name_of_identifier sign ends

theorem name_of_field (field : Field) (current : String) :
    nameOf? (field.line current) = some field.name := by
  rw [Field.line, String.append_assoc, String.append_assoc, String.append_assoc]
  exact name_of_indented 1 (head_of_start (c := ':') (by decide)) rfl

theorem name_of_member (entry : Member) : nameOf? entry.line = some entry.name := by
  rw [Member.line, String.append_assoc, String.append_assoc, String.append_assoc]
  exact name_of_indented 1 (head_of_start (c := ' ') (by decide)) rfl

theorem name_of_flag (entry : Member) : nameOf? entry.flagLine = some entry.name := by
  rw [Member.flagLine, String.append_assoc]
  exact name_of_indented 1 (c := ':') (by decide) rfl

theorem name_of_parameter (parameter : Parameter) (current : String) :
    nameOf? (parameter.text current) = some ("p_" ++ parameter.name) := by
  rw [Parameter.text, parameterName, String.append_assoc]
  exact name_of_identifier (head_of_start (c := ':') (by decide)) rfl

end Lines

/-- An identifier with anything behind it that does not go on with it is read as a whole, and as the
name that it was written for. It is none of the words of the language. No two names are written
alike, and the name of a field, of a member or of a parameter is read from what is written of it. -/
theorem identifiers_read_back :
    (∀ (name : String) (rest : List Char), (∀ c ∈ rest.head?, isWordChar c = false) →
      readIdentifier ((identifier name).toList ++ rest) = some (name, rest)) ∧
    (∀ name, ¬IsReserved (identifier name)) ∧
    Function.Injective identifier ∧ Function.Injective parameterName ∧
    (∀ (field : Field) (current : String), nameOf? (field.line current) = some field.name) ∧
    (∀ entry : Member, nameOf? entry.line = some entry.name ∧
      nameOf? entry.flagLine = some entry.name) ∧
    ∀ (parameter : Parameter) (current : String),
      nameOf? (parameter.text current) = some ("p_" ++ parameter.name) :=
  ⟨fun name _ ends => read_identifier name ends, identifier_not_reserved, identifier_injective,
    parameter_name_injective, name_of_field,
    fun entry => ⟨name_of_member entry, name_of_flag entry⟩, name_of_parameter⟩

/-- A keyword is quoted; letters behind the quote do not belong to it, nor does a sign behind a word
that only starts like an integer type. -/
theorem identifiers_read_back_keyword :
    (isWordChar ':' = false ∧
      readIdentifier "@\"while\": u8".toList = some ("while", ": u8".toList)) ∧
      isWordChar '-' = false ∧ readIdentifier "u08-".toList = some ("u08", ['-']) := by
  obtain ⟨read, _⟩ := identifiers_read_back
  have quoted : "@\"while\": u8".toList = (identifier "while").toList ++ ": u8".toList := by
    decide +kernel
  have bare : "u08-".toList = (identifier "u08").toList ++ ['-'] := by
    decide +kernel
  have ends : (∀ c ∈ ": u8".toList.head?, isWordChar c = false) ∧
      ∀ c ∈ ['-'].head?, isWordChar c = false := by
    constructor <;> rintro _ ⟨rfl⟩ <;> rfl
  rw [quoted, bare]
  exact ⟨⟨rfl, read "while" ": u8".toList ends.1⟩, rfl, read "u08" ['-'] ends.2⟩

end ZigBindings.Zig
