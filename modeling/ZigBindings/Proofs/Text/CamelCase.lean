import ZigBindings.Proofs.Text.Capital

/-!
# Names in camel case

A name can be put into camel case in parts: what follows a separator is put into Pascal case. No
separator is left, and so camel case is its own camel case. Where every underscore of a name stands
before a small letter, and the name has no capital letters of its own, the name can be read from
its camel case: a capital letter is an underscore and the small letter.
-/

namespace ZigBindings.Text

/-- Whether there are no capital letters in a name, and a small letter after every underscore. -/
def isSnakeCase : List Char → Bool
  | [] => true
  | '_' :: [] => false
  | '_' :: c :: rest => c.isLower && isSnakeCase rest
  | c :: rest => !c.isUpper && isSnakeCase rest

/-- What a character of a name in camel case stands for. -/
def uncapitalized (c : Char) : List Char :=
  if c.isUpper then ['_', c.toLower] else [c]

section Pieces

variable {mark c : Char}

theorem pieces_eq_splitOn (mark : Char) (text : List Char) :
    pieces [mark] text = text.splitOn mark := by
  induction text with
  | nil => rfl
  | cons c rest ih =>
      rw [List.splitOn_cons_eq_if_modifyHead, ← ih, pieces, piecesAfter]
      by_cases separates : c = mark
      · simp [separates, List.isPrefixOf, pieces]
      · simp [separates, Ne.symm separates, List.isPrefixOf, pieces]

theorem pieces_other (other : c ≠ mark) (rest : List Char) :
    pieces [mark] (c :: rest) = (pieces [mark] rest).modifyHead (c :: ·) := by
  simp [pieces_eq_splitOn, List.splitOn_cons_eq_if_modifyHead, other]

theorem pieces_cons (mark : Char) (text : List Char) :
    ∃ word words, pieces [mark] text = word :: words := by
  rw [pieces_eq_splitOn]
  exact List.exists_cons_of_ne_nil (List.splitOn_ne_nil mark text)

theorem pieces_append (mark : Char) (first second : List Char) :
    pieces [mark] (first ++ mark :: second) = pieces [mark] first ++ pieces [mark] second := by
  simp only [pieces_eq_splitOn, List.splitOn_append_cons_self]

theorem pieces_of_absent {text : List Char} (absent : mark ∉ text) :
    pieces [mark] text = [text] := by
  rw [pieces_eq_splitOn, List.splitOn_eq_singleton absent]

theorem mark_not_in_piece {piece text : List Char} (cut : piece ∈ pieces [mark] text) :
    mark ∉ piece := by
  induction text generalizing piece with
  | nil =>
      rw [List.mem_singleton.mp cut]
      exact List.not_mem_nil
  | cons c rest ih =>
      by_cases separates : c = mark
      · rw [separates, ← List.nil_append (mark :: rest), pieces_append, pieces_nil] at cut
        rcases List.mem_cons.mp cut with rfl | later
        · exact List.not_mem_nil
        · exact ih later
      · obtain ⟨word, words, inside⟩ := pieces_cons mark rest
        rw [pieces_other separates, inside, List.modifyHead_cons] at cut
        rcases List.mem_cons.mp cut with rfl | later
        · rw [List.mem_cons, not_or]
          exact ⟨Ne.symm separates, ih (inside ▸ List.mem_cons_self)⟩
        · exact ih (inside ▸ List.mem_cons_of_mem word later)

end Pieces

section Parts

theorem joinCapitalized_append {first : List (List Char)} (started : first ≠ [])
    (second : List (List Char)) :
    joinCapitalized (first ++ second) = joinCapitalized first ++ second.flatMap capitalize := by
  cases first with
  | nil => exact absurd rfl started
  | cons word words =>
      rw [List.cons_append, joinCapitalized, joinCapitalized, List.flatMap_append,
        List.append_assoc]

theorem capitalize_joinCapitalized (words : List (List Char)) :
    capitalize (joinCapitalized words) = words.flatMap capitalize := by
  cases words with
  | nil => rfl
  | cons word words =>
      rw [joinCapitalized, List.flatMap_cons]
      by_cases empty : word = []
      · rw [empty]
        exact capitalize_capitals words
      · exact capitalize_append empty _

theorem pascalCase_eq_flatMap (separator name : List Char) :
    pascalCase separator name = (pieces separator name).flatMap capitalize :=
  capitalize_joinCapitalized _

theorem camelCase_append (mark : Char) (first second : List Char) :
    camelCase [mark] (first ++ mark :: second) =
      camelCase [mark] first ++ pascalCase [mark] second := by
  obtain ⟨word, words, cut⟩ := pieces_cons mark first
  have started : pieces [mark] first ≠ [] := cut ▸ List.cons_ne_nil word words
  rw [camelCase, pieces_append, joinCapitalized_append started, pascalCase_eq_flatMap, camelCase]

theorem camelCase_of_absent {mark : Char} {name : List Char} (absent : mark ∉ name) :
    camelCase [mark] name = name := by
  rw [camelCase, pieces_of_absent absent, joinCapitalized, List.flatMap_nil, List.append_nil]

theorem mark_not_in_camelCase {mark : Char} {codes : List Nat}
    (spared : spares upperSpecials upperRuns codes) (coded : mark.toNat ∈ codes)
    (name : List Char) : mark ∉ camelCase [mark] name := by
  intro member
  obtain ⟨first, others, cut⟩ := pieces_cons mark name
  rw [camelCase, cut, joinCapitalized, List.mem_append, List.mem_flatMap] at member
  rcases member with here | ⟨word, later, capital⟩
  · exact mark_not_in_piece (cut ▸ List.mem_cons_self) here
  · exact mark_not_in_piece (cut ▸ List.mem_cons_of_mem first later)
      (mem_capitalize spared capital coded)

end Parts

section ReadBack

variable {rest : List Char} {c : Char}

theorem camelCase_other {mark : Char} (other : c ≠ mark) :
    camelCase [mark] (c :: rest) = c :: camelCase [mark] rest := by
  obtain ⟨word, words, cut⟩ := pieces_cons mark rest
  rw [camelCase, camelCase, pieces_other other, cut, List.modifyHead_cons]
  rfl

theorem camelCase_mark {mark : Char} (other : c ≠ mark) :
    camelCase [mark] (mark :: c :: rest) = upperChar c ++ camelCase [mark] rest := by
  have start : camelCase [mark] (mark :: c :: rest) = pascalCase [mark] (c :: rest) :=
    camelCase_append mark [] (c :: rest)
  rw [start, pascalCase, camelCase_other other, capitalize]

theorem upper_of_small (small : c.isLower) :
    ∃ capital, upperChar c = [capital] ∧ capital.isUpper ∧ capital.toLower = c := by
  have checked : ∀ code < 26, upperChar (Char.ofNat (97 + code)) = [Char.ofNat (65 + code)] ∧
      (Char.ofNat (65 + code)).isUpper ∧
      (Char.ofNat (65 + code)).toLower = Char.ofNat (97 + code) := by
    decide +kernel
  have bounds : (decide ('a'.val ≤ c.val) && decide (c.val ≤ 'z'.val)) = true := small
  simp only [Bool.and_eq_true, decide_eq_true_eq, UInt32.le_iff_toNat_le] at bounds
  obtain ⟨first, last⟩ : 97 ≤ c.toNat ∧ c.toNat ≤ 122 := bounds
  have upper := checked (c.toNat - 97) (by omega)
  rw [Nat.add_sub_cancel' first, Char.ofNat_toNat] at upper
  exact ⟨_, upper⟩

theorem camelCase_read_back {name : List Char} (snake : isSnakeCase name) :
    (camelCase ['_'] name).flatMap uncapitalized = name := by
  fun_induction isSnakeCase name with
  | case1 => rfl
  | case2 => cases snake
  | case3 c rest ih =>
      obtain ⟨small, further⟩ := Bool.and_eq_true_iff.mp snake
      have letter : c ≠ '_' := by
        rintro rfl
        exact absurd small (by decide)
      obtain ⟨capital, upper, capitalized, lowered⟩ := upper_of_small small
      rw [camelCase_mark letter, upper, List.singleton_append, List.flatMap_cons,
        ih further, uncapitalized, if_pos capitalized, lowered]
      rfl
  | case4 c rest last inside ih =>
      obtain ⟨small, further⟩ := Bool.and_eq_true_iff.mp snake
      have letter : c ≠ '_' := by
        rintro rfl
        cases rest with
        | nil => exact last rfl rfl
        | cons d others => exact inside d others rfl rfl
      have stays : ¬c.isUpper := by simpa using small
      rw [camelCase_other letter, List.flatMap_cons, ih further, uncapitalized, if_neg stays]
      rfl

theorem camelCase_injective {first second : List Char} (snake : isSnakeCase first)
    (alsoSnake : isSnakeCase second) (same : camelCase ['_'] first = camelCase ['_'] second) :
    first = second := by
  rw [← camelCase_read_back snake, same, camelCase_read_back alsoSnake]

end ReadBack

/-- Around a separator, a name in camel case is the camel case of what stands in front of it and then
the Pascal case of the rest. No separator is left, and camel case is its own camel case. -/
theorem camelCase_at_separators {mark : Char} (separates : mark ∈ ['_', '-'])
    (first second name : List Char) :
    camelCase [mark] (first ++ [mark] ++ second) =
        camelCase [mark] first ++ pascalCase [mark] second ∧
      mark ∉ camelCase [mark] name ∧
      camelCase [mark] (camelCase [mark] name) = camelCase [mark] name := by
  have spared : spares upperSpecials upperRuns (['_', '-'].map Char.toNat) := by decide +kernel
  have joined : camelCase [mark] (first ++ [mark] ++ second) =
      camelCase [mark] first ++ pascalCase [mark] second := by
    rw [List.append_assoc, List.singleton_append, camelCase_append]
  have absent : mark ∉ camelCase [mark] name :=
    mark_not_in_camelCase spared (List.mem_map_of_mem separates) name
  exact ⟨joined, absent, camelCase_of_absent absent⟩

/-- Separators at both ends and side by side, a ligature and a sharp s that become two capitals, and
a digraph of one character with a capital of its own. -/
theorem camelCase_at_separators_ligature :
    let first := "_set__ǆ_".toList
    let second := "_ﬁll-ß_ßs_".toList
    '_' ∈ ['_', '-'] ∧
      camelCase ['_'] (first ++ ['_'] ++ second) =
        camelCase ['_'] first ++ pascalCase ['_'] second ∧
      camelCase ['_'] first = "SetǄ".toList ∧
      pascalCase ['_'] second = "FIll-ßSSs".toList ∧
      '_' ∉ camelCase ['_'] second ∧
      camelCase ['_'] (camelCase ['_'] second) = camelCase ['_'] second := by
  intro first second
  have separates : '_' ∈ ['_', '-'] := List.mem_cons_self
  obtain ⟨joined, absent, again⟩ := camelCase_at_separators separates first second second
  exact ⟨separates, joined, by decide +kernel, by decide +kernel, absent, again⟩

end ZigBindings.Text
