import ZigBindings.Generation.Generator
import ZigBindings.Proofs.Text.Case

/-!
# The words for a module

The constant of a module and the prefix of its types are its name in lower case. Its file is named
by what the name and the extension are in lower case together, both where the file is written and
where it is imported. What stands behind a character has a say in its lower case only if it is a
capital sigma that ends a word; a dot is passed over there, and so the word goes on with the
extension. All words are the same but for the names that end in such a sigma.
-/

namespace ZigBindings

open ZigBindings.Text ZigBindings.Zig

/-- Whether a text ends in a capital sigma that ends a word: nothing but characters that are passed
over stand behind it. -/
def EndsInSigma (text : List Char) : Prop :=
  ∃ front back, text = front ++ capitalSigma :: back ∧ startsCased front.reverse ∧
    ∀ c ∈ back, isIgnorable c

section Seam

variable {before text behind : List Char}

theorem starts_cased_append (first second : List Char) :
    startsCased (first ++ second) =
      if first.all isIgnorable then startsCased second else startsCased first := by
  induction first with
  | nil => rfl
  | cons c rest ih =>
      rw [List.cons_append, startsCased, startsCased, ih, List.all_cons]
      cases isIgnorable c <;> simp

theorem starts_cased_sigma (rest : List Char) : startsCased (capitalSigma :: rest) = true := by
  have sigma : isIgnorable capitalSigma = false ∧ isCased capitalSigma = true := by decide +kernel
  rw [startsCased, sigma.1, sigma.2]
  rfl

/-- What stands behind a character is looked at only for a sigma that ends a word, and only beyond
what is passed over. -/
theorem lower_at_append {c : Char} {rest : List Char}
    (settled : c = capitalSigma → startsCased before → ¬∀ d ∈ rest, isIgnorable d) :
    lowerAt before c (rest ++ behind) = lowerAt before c rest := by
  unfold lowerAt
  split
  · rename_i sigma
    cases word : startsCased before with
    | false => rfl
    | true =>
        have counted : ¬rest.all isIgnorable = true := by
          simpa using settled sigma word
        rw [starts_cased_append, if_neg counted]
  · rfl

/-- The lower case of a text does not depend on what is appended to it, unless it ends in a sigma
that ends a word. -/
theorem lower_after_append
    (open_ : ∀ front back, text = front ++ capitalSigma :: back →
      startsCased (front.reverse ++ before) → ¬∀ c ∈ back, isIgnorable c) :
    lowerAfter before (text ++ behind) =
      lowerAfter before text ++ lowerAfter (text.reverse ++ before) behind := by
  induction text generalizing before with
  | nil => rfl
  | cons c rest ih =>
      have here : c = capitalSigma → startsCased before → ¬∀ d ∈ rest, isIgnorable d := by
        rintro rfl
        exact open_ [] rest rfl
      have later : ∀ front back, rest = front ++ capitalSigma :: back →
          startsCased (front.reverse ++ (c :: before)) → ¬∀ d ∈ back, isIgnorable d := by
        intro front back split word
        refine open_ (c :: front) back (by rw [split]; rfl) ?_
        simpa using word
      rw [List.cons_append, lowerAfter, lowerAfter, lower_at_append here, ih later,
        List.append_assoc, List.reverse_cons, List.append_assoc]
      rfl

theorem lower_in_front {first second : List Char}
    (same : startsCased first = startsCased second) (before front : List Char) :
    ∃ lowered,
      lowerAfter before (front ++ first) = lowered ++ lowerAfter (front.reverse ++ before) first ∧
      lowerAfter before (front ++ second) =
        lowered ++ lowerAfter (front.reverse ++ before) second := by
  induction front generalizing before with
  | nil => exact ⟨[], rfl, rfl⟩
  | cons c rest ih =>
      obtain ⟨lowered, left, right⟩ := ih (c :: before)
      have here : lowerAt before c (rest ++ first) = lowerAt before c (rest ++ second) := by
        unfold lowerAt
        rw [starts_cased_append, starts_cased_append, same]
      refine ⟨lowerAt before c (rest ++ first) ++ lowered, ?_, ?_⟩
      · rw [List.cons_append, lowerAfter, left, List.reverse_cons, List.append_assoc,
          List.append_assoc]
        rfl
      · rw [List.cons_append, lowerAfter, right, here, List.reverse_cons, List.append_assoc,
          List.append_assoc]
        rfl

end Seam

section Names

theorem extension_lower (before : List Char) :
    lowerAfter before ".zig".toList = ".zig".toList := by
  rfl

theorem no_sigma_in_passed {back : List Char} (passed : ∀ c ∈ back, isIgnorable c) :
    capitalSigma ∉ back := by
  intro member
  exact absurd (passed capitalSigma member) (by decide +kernel)

theorem starts_cased_of_passed {back : List Char} (passed : ∀ c ∈ back, isIgnorable c)
    (rest : List Char) : startsCased (back ++ rest) = startsCased rest := by
  rw [starts_cased_append, if_pos (List.all_eq_true.mpr passed)]

theorem file_name_of_other {name : String} (other : ¬EndsInSigma name.toList) :
    moduleFileName name = lower name ++ ".zig" := by
  have whole : lowerAfter [] (name.toList ++ ".zig".toList) =
      lowerAfter [] name.toList ++ lowerAfter (name.toList.reverse ++ []) ".zig".toList := by
    refine lower_after_append fun front back split word passed => other ?_
    exact ⟨front, back, split, by simpa using word, passed⟩
  rw [moduleFileName, lower, lower, String.toList_append, whole, extension_lower,
    String.ofList_append, String.ofList_toList]

theorem lower_of_sigma {before back : List Char} (word : startsCased before)
    (passed : ∀ c ∈ back, isIgnorable c) :
    lowerAfter before (capitalSigma :: back) =
      'ς' :: lowerAfter (capitalSigma :: before) back := by
  have ended : startsCased back = false := by
    have passedOver := starts_cased_of_passed passed []
    rwa [List.append_nil] at passedOver
  rw [lowerAfter, lowerAt, if_pos rfl, word, ended]
  rfl

theorem lower_of_sigma_extended {before back : List Char} (passed : ∀ c ∈ back, isIgnorable c) :
    lowerAfter before (capitalSigma :: back ++ ".zig".toList) =
      'σ' :: (lowerAfter (capitalSigma :: before) back ++ ".zig".toList) := by
  have goesOn : startsCased (back ++ ".zig".toList) = true := by
    rw [starts_cased_of_passed passed]
    decide +kernel
  have apart : lowerAfter (capitalSigma :: before) (back ++ ".zig".toList) =
      lowerAfter (capitalSigma :: before) back ++ ".zig".toList := by
    rw [lower_after_append, extension_lower]
    intro front rest split _ _
    exact no_sigma_in_passed passed (by simp [split])
  rw [List.cons_append, lowerAfter, lowerAt, if_pos rfl, goesOn, apart]
  cases startsCased before <;> rfl

/-- The constant of a name that ends in a sigma has a final one, its file has not. -/
theorem file_name_of_sigma {name : String} (ends : EndsInSigma name.toList) :
    ∃ left right, lower name = left ++ "ς" ++ right ∧
      moduleFileName name = left ++ "σ" ++ right ++ ".zig" := by
  obtain ⟨front, back, split, word, passed⟩ := ends
  have same : startsCased (capitalSigma :: back) =
      startsCased (capitalSigma :: back ++ ".zig".toList) := by
    rw [List.cons_append, starts_cased_sigma, starts_cased_sigma]
  obtain ⟨lowered, plain, extended⟩ := lower_in_front same [] front
  have before : startsCased (front.reverse ++ []) := by simpa using word
  rw [lower_of_sigma before passed] at plain
  rw [lower_of_sigma_extended passed] at extended
  refine ⟨String.ofList lowered,
    String.ofList (lowerAfter (capitalSigma :: (front.reverse ++ [])) back), ?_, ?_⟩
  · rw [lower, split, plain]
    apply String.toList_inj.mp
    simp
  · rw [moduleFileName, lower, String.toList_append, split, List.append_assoc, extended]
    apply String.toList_inj.mp
    simp

end Names

/-- A module is imported under the name of the file that it is written to. Its constant, the prefix
of its types and the stem of its file are one word if and only if its name does not end in a sigma
that ends a word; if it does, the file has an inner sigma where the others have a final one. -/
theorem module_words_agree_iff (name : String) :
    ∃ stem,
      importLine name = "const " ++ lower name ++ " = @import(\"" ++ stem ++ ".zig\");" ∧
      (∀ generator : Generator,
        generator.modulePath name = generator.output.below (stem ++ ".zig")) ∧
      (∀ current, modulePrefix (some name) current =
        if lower name = lower current then "" else lower name ++ ".") ∧
      (stem = lower name ↔ ¬EndsInSigma name.toList) ∧
      (stem = lower name ∨
        ∃ left right, lower name = left ++ "ς" ++ right ∧ stem = left ++ "σ" ++ right) := by
  have shown {stem : String} (file : moduleFileName name = stem ++ ".zig") :
      importLine name = "const " ++ lower name ++ " = @import(\"" ++ stem ++ ".zig\");" ∧
      ∀ generator : Generator,
        generator.modulePath name = generator.output.below (stem ++ ".zig") := by
    refine ⟨?_, fun generator => by rw [Generator.modulePath, file]⟩
    rw [importLine, file]
    apply String.toList_inj.mp
    simp
  by_cases ends : EndsInSigma name.toList
  -- The sigma is final for the constant, where the name ends, but not for the file.
  · obtain ⟨left, right, constant, file⟩ := file_name_of_sigma ends
    obtain ⟨imported, written⟩ := shown file
    have different : left ++ "σ" ++ right ≠ lower name := by
      rw [constant, ne_eq, String.append_left_inj, String.append_right_inj]
      decide
    exact ⟨left ++ "σ" ++ right, imported, written, fun _ => rfl,
      iff_of_false different (not_not_intro ends), .inr ⟨left, right, constant, rfl⟩⟩
  · obtain ⟨imported, written⟩ := shown (file_name_of_other ends)
    exact ⟨lower name, imported, written, fun _ => rfl, iff_of_true rfl ends, .inl rfl⟩

/-- A name of two letters, the second of which is a sigma. -/
theorem file_of_final_sigma :
    moduleFileName "ΑΣ" = "ασ.zig" ∧ lower "ΑΣ" = "ας" ∧
      moduleFileName "ΑΣ" ≠ lower "ΑΣ" ++ ".zig" := by
  decide +kernel

end ZigBindings
