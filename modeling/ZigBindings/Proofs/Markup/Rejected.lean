import Mathlib.Data.List.TakeDrop
import ZigBindings.Markup.Document

/-!
# Texts that are no documents

A text whose first character that is no blank does not open a tag has no root, whatever follows.
-/

namespace ZigBindings.Markup

open ZigBindings.Text

namespace Scan

variable {α β : Type}

@[simp]
theorem pure_apply (value : α) (text : List Char) :
    (pure value : Scan α) text = some (value, text) :=
  rfl

@[simp]
theorem bind_apply (first : Scan α) (next : α → Scan β) (text : List Char) :
    (first >>= next) text = (first text).bind fun result => next result.1 result.2 :=
  rfl

def StartsPlain (text : List Char) : Prop :=
  (text.dropWhile isSpace).head? ≠ some '<'

theorem optional_of_other (expected : String) {c : Char} {tail text : List Char}
    (spelled : expected.toList = c :: tail) (other : text.head? ≠ some c) :
    optional expected text = some (false, text) := by
  have no : (c :: tail).isPrefixOf text = false := by
    cases text with
    | nil => rfl
    | cons d rest =>
        have different : c ≠ d := fun same => other (by simp [same])
        simp [List.isPrefixOf, different]
  simp [optional, spelled, no]

theorem spaces_apply (text : List Char) : spaces text = some ((), text.dropWhile isSpace) := by
  simp [spaces, run, List.span_eq_takeWhile_dropWhile]

theorem prolog_of_plain {text : List Char} (alphabet : Alphabet) (standalone : Bool)
    (plain : StartsPlain text) :
    prolog alphabet standalone text =
      some ({ standalone := standalone }, text.dropWhile isSpace) := by
  have comment := optional_of_other "<!--" rfl plain
  have instruction := optional_of_other "<?" rfl plain
  have doctype := optional_of_other "<!DOCTYPE" rfl plain
  have step : prologStep alphabet standalone none text =
      some ((none, false), text.dropWhile isSpace) := by
    simp [prologStep, spaces_apply, comment, instruction, doctype]
  simp [prolog, iterate, iterateWithin, step, get, getThe, MonadStateOf.get, StateT.get]

theorem token_of_plain {alphabet : Alphabet} {text rest : List Char} {token : Token}
    (other : text.head? ≠ some '<') (read : Scan.token alphabet text = some (token, rest)) :
    startsOpening [token] = false := by
  have comment := optional_of_other "<!--" rfl other
  have verbatim := optional_of_other "<![CDATA[" rfl other
  have instruction := optional_of_other "<?" rfl other
  have closing := optional_of_other "</" rfl other
  have opening := optional_of_other "<" rfl other
  simp only [Scan.token, bind_apply, comment, verbatim, instruction, closing, opening,
    Option.bind_some, Bool.false_eq_true, if_false, Option.bind_eq_some_iff] at read
  obtain ⟨⟨found, after⟩, _, read⟩ := read
  cases found with
  | true =>
      obtain ⟨⟨piece, _⟩, _, read⟩ := Option.bind_eq_some_iff.mp read
      cases piece with
      | char c =>
          cases read
          rfl
      | entity name =>
          cases read
          rfl
  | false =>
      obtain ⟨_, _, read⟩ := Option.bind_eq_some_iff.mp read
      cases read
      rfl

end Scan

theorem all_cons {α : Type} {scan : Scan α} {c : Char} {rest : List Char} {values : List α}
    (read : Scan.all scan (c :: rest) = some values) :
    ∃ value after later, scan (c :: rest) = some (value, after) ∧ values = value :: later := by
  obtain ⟨⟨value, after⟩, first, others⟩ := Option.bind_eq_some_iff.mp read
  obtain ⟨later, _, same⟩ := Option.bind_eq_some_iff.mp others
  cases same
  exact ⟨value, after, later, first, rfl⟩

theorem tokens_of_plain {alphabet : Alphabet} {text : List Char} {values : List Token}
    (other : text.head? ≠ some '<') (read : tokens alphabet text = some values) :
    startsOpening (splitRoot 0 values).1 = false := by
  cases text with
  | nil =>
      cases read
      rfl
  | cons c rest =>
      obtain ⟨token, after, later, first, rfl⟩ := all_cons read
      have plain := Scan.token_of_plain other first
      cases token with
      | opening name attributes closed => simp [startsOpening] at plain
      | closing name => rfl
      | data content => rfl
      | verbatim content => rfl
      | entity name => rfl
      | remark => rfl

theorem no_root_of_plain (alphabet : Alphabet) (standalone : Bool) {text : List Char}
    (plain : Scan.StartsPlain text) : root? alphabet standalone text = none := by
  unfold root?
  rw [Scan.prolog_of_plain alphabet standalone plain]
  simp only [Option.bind_eq_bind, Option.bind_some]
  refine Option.bind_eq_none_iff.mpr fun values read => ?_
  refine Option.bind_eq_none_iff.mpr fun nodes _ => ?_
  rw [tokens_of_plain plain read]
  rfl

def isBlankByte (byte : UInt8) : Bool :=
  byte = 0x20 || byte = 0x09 || byte = 0x0A || byte = 0x0D

/-- The first byte that is no blank does not open a tag. -/
def StartsPlainly (bytes : List UInt8) : Prop :=
  (bytes.dropWhile isBlankByte).head? ≠ some 0x3C

theorem blank_encoded {c : Char} (blank : isSpace c = true) :
    ∃ byte, isBlankByte byte = true ∧ String.utf8EncodeChar c = [byte] := by
  simp only [isSpace, Bool.or_eq_true, decide_eq_true_eq, or_assoc] at blank
  rcases blank with rfl | rfl | rfl | rfl
  · exact ⟨0x20, by decide, by decide⟩
  · exact ⟨0x09, by decide, by decide⟩
  · exact ⟨0x0A, by decide, by decide⟩
  · exact ⟨0x0D, by decide, by decide⟩

/-- Blanks and brackets are single bytes, so the bytes tell how the text starts. -/
theorem starts_plain_of_bytes {text : List Char} (plainly : StartsPlainly (utf8Bytes text)) :
    Scan.StartsPlain text := by
  induction text with
  | nil => simp [Scan.StartsPlain]
  | cons c rest ih =>
      by_cases blank : isSpace c = true
      · obtain ⟨byte, blankByte, encoded⟩ := blank_encoded blank
        have split : utf8Bytes (c :: rest) = byte :: utf8Bytes rest := by
          simp [utf8Bytes, encoded]
        rw [split] at plainly
        unfold StartsPlainly at plainly
        rw [List.dropWhile_cons_of_pos blankByte] at plainly
        unfold Scan.StartsPlain
        rw [List.dropWhile_cons_of_pos blank]
        exact ih plainly
      · unfold Scan.StartsPlain
        rw [List.dropWhile_cons_of_neg blank]
        rintro bracket
        cases bracket
        exact plainly rfl

theorem undeclared_of_plainly {bytes : List UInt8} (plainly : StartsPlainly bytes) :
    startsDeclared (Encoding.utf8.preview bytes) = false := by
  cases bytes with
  | nil => rfl
  | cons byte rest =>
      have other : byte ≠ 0x3C := by
        rintro rfl
        exact plainly rfl
      have different : Char.ofNat byte.toNat ≠ '<' := by
        intro same
        have small : byte.toNat.isValidChar := .inl (by have := byte.toNat_lt; omega)
        have codes := congrArg Char.toNat same
        rw [Char.ofNat, dif_pos small] at codes
        exact other (UInt8.toNat_inj.mp codes)
      simp [startsDeclared, Encoding.preview, different.symm]

/-- Bytes that show no byte order mark and no zeros are taken for UTF-8. If they do not start with a
tag, they are no document. -/
theorem malformed_of_plainly {bytes : List UInt8}
    (shown : Encoding.detect bytes = (.utf8, bytes)) (plainly : StartsPlainly bytes) :
    (Source.bytes bytes).read = .malformed := by
  have rootless : ∀ text, Encoding.utf8.decode? bytes = some text →
      root? Encoding.utf8.alphabet false text = none := by
    intro text decoded
    refine no_root_of_plain _ _ (starts_plain_of_bytes ?_)
    obtain ⟨_, spelled, legal⟩ := Option.bind_eq_some_iff.mp decoded
    obtain ⟨string, found, rfl⟩ := Option.map_eq_some_iff.mp spelled
    dsimp only at legal
    split at legal
    · cases legal
      rw [utf8Bytes_of_ofUtf8? found]
      exact plainly
    · cases legal
  unfold Source.read
  simp only [Source.toBytes, shown, undeclared_of_plainly plainly, Bool.false_eq_true, if_false]
  unfold Outcome.ofText
  cases decoded : Encoding.utf8.decode? bytes with
  | none => rfl
  | some text => simp [rootless text decoded]

end ZigBindings.Markup
