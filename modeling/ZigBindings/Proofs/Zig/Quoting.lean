import ZigBindings.Proofs.Text.Numeral
import ZigBindings.Proofs.Zig.LiteralReading
import ZigBindings.Proofs.Zig.Pointers
import ZigBindings.Zig.Declaration

/-!
# Values of text constants

Whether the value of a constant is written as a literal is decided by the base of its type's name
alone. Whether the type is written as a pointer to characters that end in a zero is decided by the
whole name and by the spelling in C. The two decisions are the same but for four kinds of types,
which are listed here.
-/

namespace ZigBindings

open ZigBindings.Text ZigBindings.Zig

/-- Whether a type is written as a pointer to characters that end in a zero. -/
def isTerminated (text : String) : Bool :=
  "[*:0]".toList.isPrefixOf text.toList

/-- Whether the value of a constant is written as a literal, behind its name and type. -/
def Constant.IsQuoted (constant : Constant) (current : String) (depth : Nat) : Prop :=
  constant.lines current depth =
    [indent depth ++ "pub const " ++ identifier constant.name ++ ": " ++
      constant.type.text current ++ " = " ++ literal constant.value ++ ";", ""]

/-- Whether the spelling of a text is that of a pointer, or missing. -/
def IsPointer (spelling : Option String) : Prop :=
  spelling.getD "" = "" ∨ (spelling.getD "").toList.getLast? = some '*'

/-- Whether a type is written as its name alone, and this starts like a pointer to text. -/
structure IsBracketed (name : TypeName) (spelling : Option String) (current : String) : Prop where
  typed : spelling.getD "" ∉ ["gpointer", "gconstpointer"]
  starless : (spelling.getD "").toList.getLast? ≠ some '*'
  written : isTerminated (name.target.written current)

/-- The types for which it is not the same whether the value of a constant is a literal and whether
the type is written as a pointer to text. -/
inductive Misquoted (current : String) : TypeRef → Prop where
  /-- The value of a file name is no literal. -/
  | fileName {spelling : Option String} (pointer : IsPointer spelling) :
      Misquoted current (.simple ⟨some ⟨none, "filename"⟩, spelling⟩)
  /-- The value of a text is a literal, even if its type is that of a single character. -/
  | single {spelling : Option String} (single : ¬IsPointer spelling) :
      Misquoted current (.simple ⟨some ⟨none, "utf8"⟩, spelling⟩)
  /-- So it is if the type is one of another namespace, which only has the name of a text. -/
  | foreign {space : String} {spelling : Option String}
      (other : ¬IsBracketed ⟨some space, "utf8"⟩ spelling current) :
      Misquoted current (.simple ⟨some ⟨some space, "utf8"⟩, spelling⟩)
  /-- A type may be named like a pointer to text. -/
  | bracketed {name : TypeName} {spelling : Option String} (other : name.base ≠ "utf8")
      (bracketed : IsBracketed name spelling current) :
      Misquoted current (.simple ⟨some name, spelling⟩)

section Value

theorem length_le_flat_map {α β : Type} {parts : α → List β} (each : ∀ item, parts item ≠ [])
    (items : List α) : items.length ≤ (items.flatMap parts).length := by
  induction items with
  | nil => exact Nat.le_refl 0
  | cons item rest ih =>
      have first := List.length_pos_iff.mpr (each item)
      rw [List.flatMap_cons, List.length_append, List.length_cons]
      omega

theorem length_le_escape (text : List Char) : text.length ≤ (escape text).length := by
  have bytes : text.length ≤ (utf8Bytes text).length :=
    length_le_flat_map (fun c => List.length_pos_iff.mp (String.length_utf8EncodeChar c ▸
      Char.utf8Size_pos c)) text
  have escaped : ∀ byte, escapeByte byte ≠ [] := by
    intro byte
    obtain ⟨c, spelled, _⟩ | ⟨c, spelled, _⟩ | spelled := escape_byte_cases byte <;> simp [spelled]
  exact bytes.trans (length_le_flat_map escaped _)

theorem literal_ne (text : String) : literal text ≠ text := by
  intro same
  have length := congrArg (fun other => other.toList.length) same
  have longer := length_le_escape text.toList
  simp only [literal, escapeString, String.toList_append, String.toList_ofList,
    List.length_append] at length
  have quote : "\"".toList.length = 1 := rfl
  omega

theorem quoted_iff {constant : Constant} {current : String} {depth : Nat} :
    constant.IsQuoted current depth ↔ constant.type.isString = true := by
  have value : constant.IsQuoted current depth ↔ constant.valueText = literal constant.value := by
    simp [Constant.IsQuoted, Constant.lines]
  rw [value, Constant.valueText]
  split
  · rename_i text
    simp [text]
  · rename_i other
    exact iff_of_false (literal_ne _).symm other

end Value

section Pointers

variable {name : TypeName} {spelling : Option String} {current : String}

theorem terminated_of_sigils (outer : Sigil) (others : List Sigil) (base : String) :
    isTerminated (sigilText (outer :: others) ++ base) = true ↔ outer = .textPointer := by
  rw [isTerminated, String.toList_append, sigilText, String.toList_ofList, List.flatMap_cons]
  cases outer <;> simp [Sigil.letters]

theorem text_pointer_iff (isText : name.isText = true) :
    0 < starCount (name.spelled spelling) ↔ IsPointer spelling := by
  unfold TypeName.spelled IsPointer
  rw [isText]
  by_cases missing : spelling.getD "" = ""
  · simp only [missing]
    exact iff_of_true (by decide) (.inl trivial)
  · simp only [missing]
    exact star_count_pos_iff.trans (or_iff_right id).symm

theorem bracketed_iff (typed : spelling.getD "" ∉ ["gpointer", "gconstpointer"])
    (other : name.isText = false) :
    IsBracketed name spelling current ↔
      ¬0 < starCount (name.spelled spelling) ∧ isTerminated (name.target.written current) := by
  have read : name.spelled spelling = (spelling.getD "").toList := by
    simp [TypeName.spelled, other]
  rw [read, star_count_pos_iff]
  constructor
  · intro bracketed
    exact ⟨bracketed.starless, bracketed.written⟩
  · intro outcome
    exact ⟨typed, outcome.1, outcome.2⟩

theorem written_of_text (isText : name.isText = true) : name.target.written current = "u8" := by
  rw [target_of_text isText]
  rfl

theorem text_not_bracketed (isText : name.isText = true) : ¬IsBracketed name spelling current := by
  intro bracketed
  have written := bracketed.written
  rw [written_of_text isText] at written
  exact absurd written (by decide)

theorem untyped_not_terminated (named : Option TypeName)
    (untyped : spelling.getD "" ∈ ["gpointer", "gconstpointer"]) :
    isTerminated (SimpleType.text ⟨named, spelling⟩ current) = false ∧ ¬IsPointer spelling := by
  have text {pointer : String} (found : untypedPointers.lookup (spelling.getD "") = some pointer) :
      SimpleType.text ⟨named, spelling⟩ current = pointer := by
    simp only [SimpleType.text, found]
  unfold IsPointer
  simp only [List.mem_cons, List.not_mem_nil, or_false] at untyped
  obtain same | same := untyped <;> rw [same] at text ⊢ <;> rw [text rfl] <;> decide

/-- A type is written as a pointer to text if it is a text with a pointer, or else if it is named
so. -/
theorem terminated_iff :
    isTerminated (SimpleType.text ⟨some name, spelling⟩ current) = true ↔
      (name.isText = true ∧ IsPointer spelling) ∨ IsBracketed name spelling current := by
  by_cases typed : spelling.getD "" ∈ ["gpointer", "gconstpointer"]
  · obtain ⟨plain, single⟩ := @untyped_not_terminated spelling current (some name) typed
    rw [plain]
    refine iff_of_false Bool.false_ne_true ?_
    rintro (⟨_, pointer⟩ | bracketed)
    · exact single pointer
    · exact bracketed.typed typed
  · rw [text_of_typed typed, named_text_eq_sigils]
    cases isText : name.isText with
    | true =>
        rw [or_iff_left (text_not_bracketed isText), ← text_pointer_iff isText,
          written_of_text isText]
        cases starCount (name.spelled spelling) with
        | zero =>
            have plain : ¬isTerminated (sigilText [] ++ "u8") = true := by decide
            exact iff_of_false plain (by simp)
        | succ others =>
            have outer := terminated_of_sigils .textPointer
            exact iff_of_true ((outer _ _).mpr rfl) ⟨rfl, Nat.succ_pos others⟩
    | false =>
        rw [bracketed_iff typed isText]
        cases starCount (name.spelled spelling) with
        | zero => simp [pointerSigils, constSigils, sigilText]
        | succ others =>
            have outer := terminated_of_sigils .pointer
            refine iff_of_false (fun terminated => ?_) (by simp)
            cases (outer _ _).mp terminated

theorem unnamed_not_terminated :
    isTerminated (SimpleType.text ⟨none, spelling⟩ current) = false := by
  by_cases typed : spelling.getD "" ∈ ["gpointer", "gconstpointer"]
  · exact (untyped_not_terminated none typed).1
  · simp only [SimpleType.text, lookup_of_typed typed]
    decide

theorem decimal_head (number : Int) : ∃ c rest, (decimal number).toList = c :: rest ∧ c ≠ '*' := by
  cases number with
  | ofNat magnitude =>
      cases digits : Nat.toDigits 10 magnitude with
      | nil => exact absurd digits Nat.toDigits_ne_nil
      | cons c rest =>
          have digit := digits_of_number magnitude c (digits ▸ List.mem_cons_self)
          refine ⟨c, rest, by simp [decimal, digits], ?_⟩
          rintro rfl
          exact absurd digit (by decide)
  | negSucc magnitude => exact ⟨'-', _, by simp [decimal]; rfl, by decide⟩

theorem array_not_terminated (element : TypeRef) (size : Option Int) :
    isTerminated (TypeRef.text current (.array element size)) = false := by
  cases size with
  | none => rw [TypeRef.text, isTerminated, String.toList_append]; rfl
  | some size =>
      obtain ⟨c, rest, spelled, other⟩ := decimal_head size
      simp [TypeRef.text, isTerminated, spelled, List.isPrefixOf, Ne.symm other]

end Pointers

section Decisions

variable {name : TypeName} {spelling : Option String} {current : String}

theorem misquoted_iff :
    Misquoted current (.simple ⟨some name, spelling⟩) ↔
      (name = ⟨none, "filename"⟩ ∧ IsPointer spelling) ∨
      (name = ⟨none, "utf8"⟩ ∧ ¬IsPointer spelling) ∨
      (name.base = "utf8" ∧ name.space ≠ none ∧ ¬IsBracketed name spelling current) ∨
      (name.base ≠ "utf8" ∧ IsBracketed name spelling current) := by
  constructor
  · intro misquoted
    cases misquoted with
    | fileName pointer => exact .inl ⟨rfl, pointer⟩
    | single single => exact .inr (.inl ⟨rfl, single⟩)
    | foreign other => exact .inr (.inr (.inl ⟨rfl, by simp, other⟩))
    | bracketed other bracketed => exact .inr (.inr (.inr ⟨other, bracketed⟩))
  · rintro (⟨rfl, pointer⟩ | ⟨rfl, single⟩ | ⟨text, qualified, other⟩ | ⟨other, bracketed⟩)
    · exact .fileName pointer
    · exact .single single
    · obtain ⟨space | space, base⟩ := name
      · exact absurd rfl qualified
      · cases text
        exact .foreign other
    · exact .bracketed other bracketed

theorem is_text_iff : name.isText = true ↔ name = ⟨none, "utf8"⟩ ∨ name = ⟨none, "filename"⟩ := by
  obtain ⟨space, base⟩ := name
  cases space <;> simp [TypeName.isText]

theorem named_decisions_agree_iff :
    (name.base = "utf8" ↔ isTerminated (SimpleType.text ⟨some name, spelling⟩ current) = true) ↔
      ¬Misquoted current (.simple ⟨some name, spelling⟩) := by
  rw [terminated_iff, misquoted_iff]
  have plain := @text_not_bracketed name spelling current
  rw [is_text_iff] at plain ⊢
  -- What is left are the cases of the name: text or not, qualified or not.
  obtain ⟨space, base⟩ := name
  grind

end Decisions

/-- The value of a constant is written as a literal if and only if its type is written as a pointer
to characters that end in a zero, for all types but the listed ones. -/
theorem literals_match_types (constant : Constant) (current : String) (depth : Nat) :
    (constant.IsQuoted current depth ↔ isTerminated (constant.type.text current) = true) ↔
      ¬Misquoted current constant.type := by
  rw [quoted_iff]
  cases constant.type with
  | simple type =>
      obtain ⟨none | name, spelling⟩ := type
      · rw [TypeRef.text, unnamed_not_terminated]
        exact iff_of_true (iff_of_eq rfl) (nomatch ·)
      · rw [TypeRef.text, ← named_decisions_agree_iff]
        simp [TypeRef.isString]
  | array element size =>
      rw [array_not_terminated]
      exact iff_of_true (iff_of_eq rfl) (nomatch ·)

def dataDirectory : Constant :=
  ⟨"DATADIR", .simple ⟨some ⟨none, "filename"⟩, some "gchar*"⟩, "/usr/share"⟩

def firstLetter : Constant :=
  ⟨"FIRST", .simple ⟨some ⟨none, "utf8"⟩, some "gchar"⟩, "A"⟩

def foreignText : Constant :=
  ⟨"ELLIPSIS", .simple ⟨some ⟨some "Pango", "utf8"⟩, some "PangoText*"⟩, "..."⟩

/-- One constant of each kind: the first is no literal but has the type of a text, the others are
literals and have it not. -/
theorem literals_not_matching_types :
    ¬(dataDirectory.IsQuoted "GLib" 0 ↔ isTerminated (dataDirectory.type.text "GLib")) ∧
      ¬(firstLetter.IsQuoted "GLib" 0 ↔ isTerminated (firstLetter.type.text "GLib")) ∧
      ¬(foreignText.IsQuoted "GLib" 0 ↔ isTerminated (foreignText.type.text "GLib")) := by
  rw [quoted_iff, quoted_iff, quoted_iff]
  decide +kernel

end ZigBindings
