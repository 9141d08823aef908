import Mathlib.Data.List.Basic
import ZigBindings.Text.Words

/-!
# What a change of case can bring in

The tables of the case mappings are checked once for some code points that no mapping yields. A
character of such a code that stands in a text after a change of case has stood there before. How
long a text is in lower case is the sum over its characters, whatever stands around them.
-/

namespace ZigBindings.Text

/-- Whether none of some code points is the image of another one under the mappings of a table. -/
def spares (specials : List (Nat × List Nat)) (runs : List CaseRun) (codes : List Nat) : Bool :=
  codes.all fun code =>
    code != 0 && specials.all (fun entry => !entry.2.contains code) &&
      runs.all fun run => decide ((code : Int) < run.first + run.shift) ||
        decide ((run.last : Int) + run.shift < code)

theorem code_of_ofNat {code number : Nat} (coded : (Char.ofNat number).toNat = code)
    (nonzero : code ≠ 0) : number = code := by
  by_cases valid : number.isValidChar
  · rw [Char.ofNat, dif_pos valid] at coded
    exact coded
  · rw [Char.ofNat, dif_neg valid] at coded
    exact absurd coded.symm nonzero

theorem mapCase_cases (specials : List (Nat × List Nat)) (runs : List CaseRun) (c : Char) :
    mapCase specials runs c = [c] ∨
      (∃ codes, (c.toNat, codes) ∈ specials ∧ mapCase specials runs c = codes.map Char.ofNat) ∨
      ∃ run ∈ runs, run.covers c.toNat ∧
        mapCase specials runs c = [Char.ofNat (c.toNat + run.shift).toNat] := by
  unfold mapCase
  split
  · rename_i code codes found
    have same : code = c.toNat := by simpa using List.find?_some found
    exact .inr (.inl ⟨codes, same ▸ List.mem_of_find?_eq_some found, rfl⟩)
  · split
    · rename_i run found
      have covered := List.find?_some found
      exact .inr (.inr ⟨run, List.mem_of_find?_eq_some found, covered, rfl⟩)
    · exact .inl rfl

theorem eq_of_mapCase {specials : List (Nat × List Nat)} {runs : List CaseRun} {codes : List Nat}
    (spared : spares specials runs codes) {c d : Char} (mapped : d ∈ mapCase specials runs c)
    (coded : d.toNat ∈ codes) : d = c := by
  have checked := List.all_eq_true.mp spared d.toNat coded
  simp only [Bool.and_eq_true, bne_iff_ne, List.all_eq_true, Bool.or_eq_true,
    decide_eq_true_eq, Bool.not_eq_true', List.contains_eq_mem, decide_eq_false_iff_not] at checked
  obtain ⟨⟨nonzero, listed⟩, moved⟩ := checked
  rcases mapCase_cases specials runs c with stays | ⟨images, entry, becomes⟩ |
    ⟨run, member, covered, becomes⟩
  · rw [stays] at mapped
    exact List.mem_singleton.mp mapped
  · rw [becomes] at mapped
    obtain ⟨code, image, rfl⟩ := List.mem_map.mp mapped
    rw [← code_of_ofNat rfl nonzero] at listed
    exact absurd image (listed _ entry)
  · rw [becomes] at mapped
    simp only [CaseRun.covers, Bool.and_eq_true, decide_eq_true_eq] at covered
    have image := code_of_ofNat (congrArg Char.toNat (List.mem_singleton.mp mapped)).symm nonzero
    rcases moved run member with below | above <;> omega

theorem mem_lowerAfter {before text : List Char} {d : Char} (member : d ∈ lowerAfter before text) :
    d = 'ς' ∨ d = 'σ' ∨ ∃ c ∈ text, d ∈ lowerChar c := by
  induction text generalizing before with
  | nil => cases member
  | cons c rest ih =>
      rw [lowerAfter, List.mem_append] at member
      rcases member with here | later
      · unfold lowerAt at here
        split at here
        · split at here
          · exact .inl (List.mem_singleton.mp here)
          · exact .inr (.inl (List.mem_singleton.mp here))
        · exact .inr (.inr ⟨c, List.mem_cons_self, here⟩)
      · exact (ih later).imp_right (.imp_right fun ⟨e, inside, lowered⟩ =>
          ⟨e, List.mem_cons_of_mem c inside, lowered⟩)

theorem mem_lower {codes : List Nat} (spared : spares lowerSpecials lowerRuns codes)
    (ascii : ∀ code ∈ codes, code < 128) {text : String} {d : Char}
    (member : d ∈ (lower text).toList) (coded : d.toNat ∈ codes) : d ∈ text.toList := by
  rw [lower, String.toList_ofList] at member
  rcases mem_lowerAfter member with rfl | rfl | ⟨c, inside, lowered⟩
  · exact absurd (ascii _ coded) (by decide)
  · exact absurd (ascii _ coded) (by decide)
  · rw [eq_of_mapCase spared lowered coded]
    exact inside

section Length

theorem length_lower_at (before before' after after' : List Char) (c : Char) :
    (lowerAt before c after).length = (lowerAt before' c after').length := by
  unfold lowerAt
  split
  · have sigma (condition : Bool) : (if condition then ['ς'] else ['σ']).length = 1 := by
      cases condition <;> rfl
    rw [sigma, sigma]
  · rfl

theorem length_lower_after (before before' text : List Char) :
    (lowerAfter before text).length = (lowerAfter before' text).length := by
  induction text generalizing before before' with
  | nil => rfl
  | cons c rest ih =>
      rw [lowerAfter, lowerAfter, List.length_append, List.length_append, ih (c :: before),
        length_lower_at]

theorem length_lower_after_append (before first second : List Char) :
    (lowerAfter before (first ++ second)).length =
      (lowerAfter before first).length + (lowerAfter [] second).length := by
  induction first generalizing before with
  | nil => simpa [lowerAfter] using length_lower_after before [] second
  | cons c rest ih =>
      rw [List.cons_append, lowerAfter, lowerAfter, List.length_append, List.length_append, ih,
        length_lower_at _ before _ rest, Nat.add_assoc]

end Length

section Words

theorem mem_of_piecesAfter {separator piece text : List Char} {skip : Nat} {c : Char}
    (cut : piece ∈ piecesAfter separator skip text) (member : c ∈ piece) : c ∈ text := by
  fun_induction piecesAfter separator skip text generalizing piece with
  | case1 =>
      rw [List.mem_singleton.mp cut] at member
      exact member
  | case2 skip d rest ih => exact List.mem_cons_of_mem d (ih cut member)
  | case3 d rest found ih =>
      rcases List.mem_cons.mp cut with rfl | later
      · cases member
      · exact List.mem_cons_of_mem d (ih later member)
  | case4 d rest other ih =>
      cases tail : piecesAfter separator 0 rest with
      | nil =>
          rw [tail] at cut
          cases cut
      | cons first others =>
          rw [tail, List.modifyHead_cons] at cut
          rcases List.mem_cons.mp cut with rfl | later
          · rcases List.mem_cons.mp member with rfl | inside
            · exact List.mem_cons_self
            · exact List.mem_cons_of_mem d (ih (tail ▸ List.mem_cons_self) inside)
          · exact List.mem_cons_of_mem d (ih (tail ▸ List.mem_cons_of_mem first later) member)

variable {codes : List Nat} (spared : spares upperSpecials upperRuns codes) {d : Char}

include spared

theorem mem_capitalize {word : List Char} (member : d ∈ capitalize word)
    (coded : d.toNat ∈ codes) : d ∈ word := by
  cases word with
  | nil => cases member
  | cons c rest =>
      rcases List.mem_append.mp member with first | later
      · rw [eq_of_mapCase spared first coded]
        exact List.mem_cons_self
      · exact List.mem_cons_of_mem c later

theorem mem_camelCase {separator name : List Char} (member : d ∈ camelCase separator name)
    (coded : d.toNat ∈ codes) : d ∈ name := by
  have inside {word : List Char} (cut : word ∈ pieces separator name) (member : d ∈ word) :
      d ∈ name := mem_of_piecesAfter cut member
  unfold camelCase at member
  cases words : pieces separator name with
  | nil =>
      rw [words] at member
      cases member
  | cons first others =>
      rw [words, joinCapitalized, List.mem_append, List.mem_flatMap] at member
      rcases member with here | ⟨word, later, capital⟩
      · exact inside (words ▸ List.mem_cons_self) here
      · exact inside (words ▸ List.mem_cons_of_mem first later)
          (mem_capitalize spared capital coded)

theorem mem_pascalCase {separator name : List Char} (member : d ∈ pascalCase separator name)
    (coded : d.toNat ∈ codes) : d ∈ name :=
  mem_camelCase spared (mem_capitalize spared member coded) coded

end Words

end ZigBindings.Text
