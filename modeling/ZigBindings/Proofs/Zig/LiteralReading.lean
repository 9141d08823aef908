import Mathlib.Tactic.SplitIfs
import ZigBindings.Zig.Literal

/-!
# Literals are read back

A literal is read from left to right. A backslash starts an escape, of a control or quoting
character or of a byte by two hexadecimal digits; any other character stands for its bytes; the
first double quote that belongs to no escape ends the literal. What a text is escaped to is read as
the bytes of that text, so that no two texts have one literal.
-/

namespace ZigBindings.Zig

open ZigBindings.Text

def hexValue? (c : Char) : Option Nat :=
  if '0' ≤ c ∧ c ≤ '9' then some (c.toNat - '0'.toNat)
  else if 'a' ≤ c ∧ c ≤ 'f' then some (10 + (c.toNat - 'a'.toNat))
  else if 'A' ≤ c ∧ c ≤ 'F' then some (10 + (c.toNat - 'A'.toNat))
  else none

def hexByte? (high low : Char) : Option UInt8 := do
  let high ← hexValue? high
  let low ← hexValue? low
  some (UInt8.ofNat (16 * high + low))

/-- The byte that a character stands for behind a backslash. -/
def escapedByte? : Char → Option UInt8
  | 'n' => some 0x0A
  | 'r' => some 0x0D
  | 't' => some 0x09
  | '\\' => some 0x5C
  | '"' => some 0x22
  | '\'' => some 0x27
  | _ => none

/-- The bytes of a literal of which the opening quote has been read, and what stands behind the
quote that ends it. -/
def readBody : List Char → Option (List UInt8 × List Char)
  | [] => none
  | '"' :: rest => some ([], rest)
  | '\\' :: 'x' :: high :: low :: rest => do
    let byte ← hexByte? high low
    (readBody rest).map (Prod.map (byte :: ·) id)
  | '\\' :: c :: rest => do
    let byte ← escapedByte? c
    (readBody rest).map (Prod.map (byte :: ·) id)
  | c :: rest => (readBody rest).map (Prod.map (String.utf8EncodeChar c ++ ·) id)

/-- The text of the literal that an input starts with, and what stands behind the literal. -/
def readLiteral : List Char → Option (String × List Char)
  | '"' :: rest => do
    let (bytes, behind) ← readBody rest
    let text ← ofUtf8? bytes
    some (text, behind)
  | _ => none

def isPrintableAscii (c : Char) : Bool :=
  ' ' ≤ c && c ≤ '~'

section Hexadecimal

theorem hex_value_of_digit : ∀ digit < 16, hexValue? (Nat.digitChar digit) = some digit := by
  decide

theorem hex_digits_all {holds : Char → Prop} (each : ∀ digit < 16, holds (Nat.digitChar digit))
    (width number : Nat) : ∀ c ∈ hexDigits width number, holds c := by
  induction width generalizing number with
  | zero => exact List.forall_mem_nil _
  | succ width ih =>
      rw [hexDigits, List.forall_mem_append, List.forall_mem_singleton]
      exact ⟨ih _, each _ (Nat.mod_lt number (by decide))⟩

theorem hex_byte_of_digits (byte : UInt8) :
    hexByte? (Nat.digitChar (byte.toNat / 16 % 16)) (Nat.digitChar (byte.toNat % 16)) =
      some byte := by
  have small : byte.toNat < 256 := byte.toNat_lt
  have halves : 16 * (byte.toNat / 16 % 16) + byte.toNat % 16 = byte.toNat := by omega
  rw [hexByte?, hex_value_of_digit _ (Nat.mod_lt _ (by decide)),
    hex_value_of_digit _ (Nat.mod_lt _ (by decide)), Option.bind_eq_bind, Option.bind_some,
    Option.bind_some, halves, UInt8.ofNat_toNat]

end Hexadecimal

section Escapes

theorem utf8_of_ascii {c : Char} (ascii : c.toNat < 128) :
    String.utf8EncodeChar c = [UInt8.ofNat c.toNat] := by
  rw [String.utf8EncodeChar]
  exact if_pos (Nat.le_of_lt_succ ascii)

theorem escape_byte_cases (byte : UInt8) :
    (∃ c, escapeByte byte = ['\\', c] ∧ escapedByte? c = some byte) ∨
      (∃ c, escapeByte byte = [c] ∧ isPrintableAscii c ∧ c ≠ '"' ∧ c ≠ '\\' ∧
        String.utf8EncodeChar c = [byte]) ∨
      escapeByte byte = '\\' :: 'x' :: hexDigits 2 byte.toNat := by
  unfold escapeByte
  split_ifs with feed ret tab backslash quote single printable
  · exact .inl ⟨'n', rfl, by rw [feed]; rfl⟩
  · exact .inl ⟨'r', rfl, by rw [ret]; rfl⟩
  · exact .inl ⟨'t', rfl, by rw [tab]; rfl⟩
  · exact .inl ⟨'\\', rfl, by rw [backslash]; rfl⟩
  · exact .inl ⟨'"', rfl, by rw [quote]; rfl⟩
  · exact .inl ⟨'\'', rfl, by rw [single]; rfl⟩
  · have printed : ∀ number < 127, 32 ≤ number ∧ number ≠ 34 ∧ number ≠ 92 →
        isPrintableAscii (Char.ofNat number) ∧ Char.ofNat number ≠ '"' ∧
          Char.ofNat number ≠ '\\' ∧ (Char.ofNat number).toNat = number := by
      decide
    obtain ⟨large, small⟩ : 32 ≤ byte ∧ byte ≤ 126 := by simpa using printable
    have bounds : 32 ≤ byte.toNat ∧ byte.toNat ≤ 126 :=
      ⟨UInt8.le_iff_toNat_le.mp large, UInt8.le_iff_toNat_le.mp small⟩
    obtain ⟨shown, inner, plain, code⟩ := printed byte.toNat (Nat.lt_succ_of_le bounds.2)
      ⟨bounds.1, fun same => quote (UInt8.toNat_inj.mp same),
        fun same => backslash (UInt8.toNat_inj.mp same)⟩
    -- A printable byte is the code of the character that stands for it.
    have bytes : String.utf8EncodeChar (Char.ofNat byte.toNat) = [byte] := by
      rw [utf8_of_ascii (by omega), code, UInt8.ofNat_toNat]
    exact .inr (.inl ⟨_, rfl, shown, inner, plain, bytes⟩)
  · exact .inr (.inr rfl)

theorem printable_of_escaped {c : Char} {byte : UInt8} (escaped : escapedByte? c = some byte) :
    isPrintableAscii c := by
  unfold escapedByte? at escaped
  split at escaped
  all_goals first | rfl | cases escaped

theorem escape_byte_printable (byte : UInt8) : ∀ c ∈ escapeByte byte, isPrintableAscii c := by
  obtain ⟨c, spelled, escaped⟩ | ⟨c, spelled, printable, _⟩ | spelled := escape_byte_cases byte
  · rw [spelled, List.forall_mem_cons, List.forall_mem_singleton]
    exact ⟨rfl, printable_of_escaped escaped⟩
  · rw [spelled, List.forall_mem_singleton]
    exact printable
  · rw [spelled, List.forall_mem_cons, List.forall_mem_cons]
    exact ⟨rfl, rfl, hex_digits_all (by decide) 2 byte.toNat⟩

theorem escape_printable (text : List Char) : ∀ c ∈ escape text, isPrintableAscii c :=
  List.forall_mem_flatMap.mpr fun byte _ => escape_byte_printable byte

end Escapes

section Reading

theorem read_numbered (byte : UInt8) (rest : List Char) :
    readBody ('\\' :: 'x' :: hexDigits 2 byte.toNat ++ rest) =
      (readBody rest).map (Prod.map (byte :: ·) id) := by
  have digits : hexDigits 2 byte.toNat =
      [Nat.digitChar (byte.toNat / 16 % 16), Nat.digitChar (byte.toNat % 16)] := rfl
  rw [digits]
  show (hexByte? _ _).bind _ = _
  rw [hex_byte_of_digits]
  rfl

theorem read_escaped {c : Char} {byte : UInt8} (escaped : escapedByte? c = some byte)
    (rest : List Char) :
    readBody ('\\' :: c :: rest) = (readBody rest).map (Prod.map (byte :: ·) id) := by
  have other : c ≠ 'x' := by
    rintro rfl
    cases escaped
  rw [readBody, escaped]
  · rfl
  · simp [other]

theorem read_plain {c : Char} (quote : c ≠ '"') (backslash : c ≠ '\\') (rest : List Char) :
    readBody (c :: rest) = (readBody rest).map (Prod.map (String.utf8EncodeChar c ++ ·) id) := by
  rw [readBody]
  all_goals simp [quote, backslash]

theorem read_escape_byte (byte : UInt8) (rest : List Char) :
    readBody (escapeByte byte ++ rest) = (readBody rest).map (Prod.map (byte :: ·) id) := by
  obtain ⟨c, spelled, escaped⟩ | ⟨c, spelled, _, quote, backslash, bytes⟩ | spelled :=
    escape_byte_cases byte
  · rw [spelled]
    exact read_escaped escaped rest
  · rw [spelled, List.singleton_append, read_plain quote backslash, bytes]
    rfl
  · rw [spelled]
    exact read_numbered byte rest

theorem read_escaped_bytes (bytes : List UInt8) (rest : List Char) :
    readBody (bytes.flatMap escapeByte ++ '"' :: rest) = some (bytes, rest) := by
  induction bytes with
  | nil => rfl
  | cons byte others ih =>
      rw [List.flatMap_cons, List.append_assoc, read_escape_byte, ih]
      rfl

theorem of_utf8_bytes (text : String) : ofUtf8? (utf8Bytes text.toList) = some text := by
  have whole : (⟨text.toByteArray.data.toList.toArray⟩ : ByteArray) = text.toByteArray := by
    rw [Array.toArray_toList]
  rw [utf8Bytes_toList, ofUtf8?, whole, String.fromUTF8?, dif_pos text.isValidUTF8]
  rfl

theorem read_literal (text : String) (rest : List Char) :
    readLiteral ('"' :: (escapeString text).toList ++ '"' :: rest) = some (text, rest) := by
  have body : readBody ((escapeString text).toList ++ '"' :: rest) =
      some (utf8Bytes text.toList, rest) := by
    rw [escapeString, String.toList_ofList]
    exact read_escaped_bytes _ rest
  rw [List.cons_append, readLiteral, body]
  show (ofUtf8? (utf8Bytes text.toList)).bind _ = _
  rw [of_utf8_bytes]
  rfl

end Reading

/-- A literal with anything behind it is read up to its closing quote and stands for the text that
was written. It is written in printable ASCII, and no two texts are written alike. -/
theorem literals_read_back :
    (∀ (text : String) (rest : List Char),
      readLiteral ('"' :: (escapeString text).toList ++ '"' :: rest) = some (text, rest)) ∧
    (∀ text : String, ∀ c ∈ (escapeString text).toList, ' ' ≤ c ∧ c ≤ '~') ∧
    Function.Injective escapeString := by
  refine ⟨read_literal, fun text c member => ?_, fun first second same => ?_⟩
  · rw [escapeString, String.toList_ofList] at member
    simpa [isPrintableAscii] using escape_printable text.toList c member
  · have read := read_literal first []
    rw [same, read_literal second []] at read
    exact (congrArg Prod.fst (Option.some.inj read)).symm

/-- Quotes, a backslash in front of one, a line feed, a character of two bytes; behind the literal
stand hexadecimal digits and another quote. -/
theorem literals_read_back_quoting :
    readLiteral "\"say \\\"hi\\\"\\\\ now\\n\\xc3\\xa9\"41\"".toList =
        some ("say \"hi\"\\ now\né", ['4', '1', '"']) ∧
      '\\' ∈ (escapeString "say \"hi\"\\ now\né").toList ∧ ' ' ≤ '\\' ∧ '\\' ≤ '~' := by
  have spelled : "\"say \\\"hi\\\"\\\\ now\\n\\xc3\\xa9\"41\"".toList =
      '"' :: (escapeString "say \"hi\"\\ now\né").toList ++ '"' :: ['4', '1', '"'] := by
    decide +kernel
  have member : '\\' ∈ (escapeString "say \"hi\"\\ now\né").toList := by
    decide +kernel
  obtain ⟨read, printable, _⟩ := literals_read_back
  rw [spelled]
  exact ⟨read _ _, member, printable _ _ member⟩

end ZigBindings.Zig
