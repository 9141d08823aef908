import Mathlib.Data.List.Basic
import ZigBindings.Zig.Identifier

/-!
# Bare identifiers

What is known of a name that is written as it is: it consists of the characters of a word, and it is
none of the words that the language uses itself.
-/

namespace ZigBindings.Zig

theorem word_char_of_start {c : Char} (start : isWordStart c) : isWordChar c := by
  simp only [isWordStart, Bool.or_eq_true] at start
  simp only [isWordChar, Char.isAlphanum, Bool.or_eq_true]
  exact start.imp_left .inl

theorem start_of_word {word : List Char} (isWord : isWord word) :
    ∃ c, word.head? = some c ∧ isWordStart c := by
  cases word with
  | nil => cases isWord
  | cons c rest =>
      simp only [Zig.isWord, Bool.and_eq_true] at isWord
      exact ⟨c, rfl, isWord.1⟩

theorem word_chars_of_word {word : List Char} (isWord : isWord word) :
    ∀ c ∈ word, isWordChar c := by
  cases word with
  | nil => cases isWord
  | cons c rest =>
      simp only [Zig.isWord, Bool.and_eq_true, List.all_eq_true] at isWord
      exact List.forall_mem_cons.mpr ⟨word_char_of_start isWord.1, isWord.2⟩

theorem word_taken {word rest : List Char} (inside : ∀ c ∈ word, isWordChar c)
    (ends : ∀ c ∈ rest.head?, isWordChar c = false) :
    (word ++ rest).takeWhile isWordChar = word ∧ (word ++ rest).dropWhile isWordChar = rest := by
  rw [List.takeWhile_append_of_pos inside, List.dropWhile_append_of_pos inside]
  cases rest with
  | nil => exact ⟨List.append_nil word, rfl⟩
  | cons c behind =>
      have other : ¬isWordChar c := by simp [ends c rfl]
      rw [List.takeWhile_cons_of_neg other, List.append_nil]
      exact ⟨rfl, List.dropWhile_cons_of_neg other⟩

theorem word_of_bare {name : String} (bare : isBareIdentifier name) : isWord name.toList := by
  simp only [isBareIdentifier, Bool.and_eq_true] at bare
  exact bare.1.1.1.2

theorem quoted_identifier {name : String} (quoted : ¬isBareIdentifier name) :
    identifier name = "@" ++ literal name :=
  identifier_of_not_bare (Bool.not_eq_true _ ▸ quoted)

end ZigBindings.Zig
