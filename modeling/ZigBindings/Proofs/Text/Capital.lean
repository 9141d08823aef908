import ZigBindings.Proofs.Text.Case

/-!
# Capitals stay capitals

The upper case of a character begins with a character that is its own upper case. The codes that
the tables move, and those that stand at the head of what they yield, are finitely many; they are
compared once, as sets that are held in numbers. So a text that is capitalized already is not
changed when it is capitalized again, although one character may have become several.
-/

namespace ZigBindings.Text

section CodeSets

/-- A set of code points as a number: the bit of a code is set if the code is a member. -/
def codeSet (codes : List Nat) : Nat :=
  codes.foldr (fun code set => 1 <<< code ||| set) 0

/-- The set of the codes in some blocks. Each block is a number of its own before it is added, so
that no fold is longer than the longest block. -/
def blockSet (blocks : List (List Nat)) : Nat :=
  blocks.foldr (fun block set => codeSet block ||| set) 0

theorem bit_of_code {codes : List Nat} {code : Nat} (member : code ∈ codes) :
    (codeSet codes).testBit code = true := by
  induction codes with
  | nil => cases member
  | cons first others ih =>
      rw [codeSet, List.foldr_cons, Nat.testBit_or, Nat.one_shiftLeft, Nat.testBit_two_pow,
        ← codeSet, Bool.or_eq_true, decide_eq_true_eq]
      exact (List.mem_cons.mp member).imp Eq.symm ih

theorem bit_of_block {blocks : List (List Nat)} {code : Nat} (member : code ∈ blocks.flatten) :
    (blockSet blocks).testBit code = true := by
  induction blocks with
  | nil => cases member
  | cons first others ih =>
      rw [blockSet, List.foldr_cons, Nat.testBit_or, ← blockSet, Bool.or_eq_true]
      exact (List.mem_append.mp member).imp bit_of_code ih

theorem disjoint_of_block_sets {first second : List (List Nat)}
    (apart : blockSet first &&& blockSet second = 0) :
    List.Disjoint first.flatten second.flatten := by
  intro code member member'
  have both : (blockSet first &&& blockSet second).testBit code = true := by
    rw [Nat.testBit_and, bit_of_block member, bit_of_block member']
    rfl
  rw [apart, Nat.zero_testBit] at both
  cases both

end CodeSets

section Tables

def CaseRun.codes (run : CaseRun) : List Nat :=
  List.range' run.first ((run.last - run.first) / run.step + 1) run.step

theorem CaseRun.mem_codes {run : CaseRun} {code : Nat} (covered : run.covers code) :
    code ∈ run.codes := by
  simp only [CaseRun.covers, Bool.and_eq_true, decide_eq_true_eq, beq_iff_eq] at covered
  obtain ⟨⟨low, high⟩, stepped⟩ := covered
  have whole : run.step * ((code - run.first) / run.step) = code - run.first :=
    Nat.mul_div_cancel' (Nat.dvd_of_mod_eq_zero stepped)
  have within : (code - run.first) / run.step ≤ (run.last - run.first) / run.step :=
    Nat.div_le_div_right (Nat.sub_le_sub_right high run.first)
  exact List.mem_range'.mpr ⟨_, Nat.lt_succ_of_le within, by rw [whole]; omega⟩

variable (specials : List (Nat × List Nat)) (runs : List CaseRun)

/-- The codes that a table maps, one block for each run. -/
def movedCodes : List (List Nat) :=
  specials.map (·.1) :: runs.map CaseRun.codes

/-- The codes that stand at the head of what a table yields. -/
def headCodes : List (List Nat) :=
  specials.map (·.2.headD 0) ::
    runs.map fun run => run.codes.map fun code : Nat => (code + run.shift).toNat

/-- Whether a table yields something for every code, and nothing that begins with a code which it
would map again. What is no code point counts as 0, which is not to be mapped either. -/
def settles : Bool :=
  specials.all (fun entry => !entry.2.isEmpty) &&
    (blockSet (movedCodes specials runs) &&& blockSet ([0] :: headCodes specials runs)) == 0

variable {specials runs} {c : Char}

theorem mapCase_of_unmoved (unmoved : c.toNat ∉ (movedCodes specials runs).flatten) :
    mapCase specials runs c = [c] := by
  rw [movedCodes, List.flatten_cons, List.mem_append, not_or] at unmoved
  rcases mapCase_cases specials runs c with stays | ⟨codes, entry, becomes⟩ |
    ⟨run, member, covered, becomes⟩
  · exact stays
  · exact absurd (List.mem_map_of_mem entry) unmoved.1
  · exact absurd (List.mem_flatten_of_mem (List.mem_map_of_mem member) (CaseRun.mem_codes covered))
      unmoved.2

theorem mapCase_head (listed : ∀ entry ∈ specials, entry.2 ≠ []) (c : Char) :
    mapCase specials runs c = [c] ∨
      ∃ code ∈ (headCodes specials runs).flatten, ∃ rest,
        mapCase specials runs c = Char.ofNat code :: rest := by
  rcases mapCase_cases specials runs c with stays | ⟨codes, entry, becomes⟩ |
    ⟨run, member, covered, becomes⟩
  · exact .inl stays
  · cases codes with
    | nil => exact absurd rfl (listed _ entry)
    | cons head others =>
        exact .inr ⟨head, List.mem_append_left _ (List.mem_map_of_mem entry),
          others.map Char.ofNat, becomes⟩
  · have moved := CaseRun.mem_codes covered
    have headed : (c.toNat + run.shift).toNat ∈ (headCodes specials runs).flatten :=
      List.mem_append_right _ (List.mem_flatten_of_mem (List.mem_map_of_mem member)
        (List.mem_map_of_mem moved))
    exact .inr ⟨_, headed, [], becomes⟩

theorem mapCase_settled (settled : settles specials runs) (c : Char) :
    ∃ head rest, mapCase specials runs c = head :: rest ∧ mapCase specials runs head = [head] := by
  simp only [settles, Bool.and_eq_true, List.all_eq_true, Bool.not_eq_true',
    List.isEmpty_eq_false_iff, beq_iff_eq] at settled
  obtain ⟨listed, apart⟩ := settled
  have disjoint := disjoint_of_block_sets apart
  rcases mapCase_head listed c with stays | ⟨code, headed, rest, yielded⟩
  · exact ⟨c, [], stays, stays⟩
  · refine ⟨Char.ofNat code, rest, yielded, mapCase_of_unmoved fun moved => ?_⟩
    by_cases zero : (Char.ofNat code).toNat = 0
    · exact disjoint moved (zero ▸ List.mem_cons_self)
    · exact disjoint moved (code_of_ofNat rfl zero ▸ List.mem_cons_of_mem 0 headed)

end Tables

theorem upperChar_settled (c : Char) :
    ∃ head rest, upperChar c = head :: rest ∧ upperChar head = [head] :=
  mapCase_settled (by decide +kernel) c

section Capitalize

theorem capitalize_append {text : List Char} (started : text ≠ []) (rest : List Char) :
    capitalize (text ++ rest) = capitalize text ++ rest := by
  cases text with
  | nil => exact absurd rfl started
  | cons c others => simp [capitalize]

theorem capitalize_capitalize_append {text : List Char} (started : text ≠ [])
    (rest : List Char) : capitalize (capitalize text ++ rest) = capitalize text ++ rest := by
  cases text with
  | nil => exact absurd rfl started
  | cons c others =>
      obtain ⟨head, more, upper, settled⟩ := upperChar_settled c
      simp [capitalize, upper, settled]

theorem capitalize_capitals (words : List (List Char)) :
    capitalize (words.flatMap capitalize) = words.flatMap capitalize := by
  induction words with
  | nil => rfl
  | cons word words ih =>
      rw [List.flatMap_cons]
      by_cases empty : word = []
      · rw [empty]
        exact ih
      · exact capitalize_capitalize_append empty _

end Capitalize

end ZigBindings.Text
