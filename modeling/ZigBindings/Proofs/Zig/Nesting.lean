import Mathlib.Tactic.SplitIfs
import ZigBindings.Proofs.Zig.Identifiers
import ZigBindings.Proofs.Zig.LiteralReading

/-!
# Nesting of brackets

A text is scanned from left to right. Literals between double quotes are passed over, with what a
backslash stands before; of the rest only the brackets count, and each closing one has to fit the
last that is open. What is open further out plays no part, so that the scan of a text is told from
the scans of its parts.
-/

namespace ZigBindings

open ZigBindings.Text ZigBindings.Zig

/-- Where a scan stands: outside of literals, in one, or behind a backslash in one. -/
inductive Place where
  | code
  | literal
  | escaped
  deriving DecidableEq

/-- A scan: where it stands, and the brackets that are still to come for those that are open, the
innermost first. -/
structure Scan where
  place : Place
  awaited : List Char
  deriving DecidableEq

def closingOf? : Char → Option Char
  | '(' => some ')'
  | '[' => some ']'
  | '\x7b' => some '\x7d'
  | _ => none

def isClosing (c : Char) : Bool :=
  c = ')' || c = ']' || c = '\x7d'

/-- A character outside of literals; there is no scan beyond a bracket that closes nothing. -/
def scanCode (awaited : List Char) (c : Char) : Option Scan :=
  if c = '"' then some ⟨.literal, awaited⟩
  else if isClosing c then
    match awaited with
    | [] => none
    | next :: others => if c = next then some ⟨.code, others⟩ else none
  else some ⟨.code, (closingOf? c).toList ++ awaited⟩

def Scan.next (scan : Scan) (c : Char) : Option Scan :=
  match scan.place with
  | .code => scanCode scan.awaited c
  | .literal =>
    if c = '"' then some ⟨.code, scan.awaited⟩
    else if c = '\\' then some ⟨.escaped, scan.awaited⟩
    else some scan
  | .escaped => some ⟨.literal, scan.awaited⟩

def Scan.run (scan : Scan) (text : List Char) : Option Scan :=
  text.foldlM Scan.next scan

/-- Scanned outside of literals, a text ends outside of literals; the brackets that are awaited
before it and after it are these. -/
def Leads (text : String) (before after : List Char) : Prop :=
  Scan.run ⟨.code, before⟩ text.toList = some ⟨.code, after⟩

/-- A text with all its literals and brackets closed. -/
def Balanced (text : String) : Prop :=
  Leads text [] []

instance (text : String) (before after : List Char) : Decidable (Leads text before after) :=
  inferInstanceAs (Decidable (Scan.run _ _ = _))

instance (text : String) : Decidable (Balanced text) :=
  inferInstanceAs (Decidable (Leads _ _ _))

namespace Scan

@[simp]
theorem run_cons (scan : Scan) (c : Char) (rest : List Char) :
    scan.run (c :: rest) = (scan.next c).bind (·.run rest) :=
  rfl

theorem run_append (scan : Scan) (first second : List Char) :
    scan.run (first ++ second) = (scan.run first).bind (·.run second) :=
  List.foldlM_append

theorem next_beyond {scan after : Scan} {c : Char} (step : scan.next c = some after)
    (outer : List Char) :
    next ⟨scan.place, scan.awaited ++ outer⟩ c = some ⟨after.place, after.awaited ++ outer⟩ := by
  obtain ⟨place, awaited⟩ := scan
  cases place with
  | code =>
      simp only [next, scanCode] at step ⊢
      split_ifs at step ⊢ with quote closing
      · cases step
        rfl
      · cases awaited with
        | nil => cases step
        | cons first others =>
            simp only [List.cons_append] at step ⊢
            split_ifs at step ⊢ with fits
            cases step
            rfl
      · cases step
        rw [List.append_assoc]
  | literal =>
      simp only [next] at step ⊢
      split_ifs at step ⊢ <;> cases step <;> rfl
  | escaped =>
      cases step
      rfl

theorem run_beyond {scan after : Scan} {text : List Char} (run : scan.run text = some after)
    (outer : List Char) :
    Scan.run ⟨scan.place, scan.awaited ++ outer⟩ text =
      some ⟨after.place, after.awaited ++ outer⟩ := by
  induction text generalizing scan with
  | nil =>
      cases run
      rfl
  | cons c rest ih =>
      obtain ⟨between, step, further⟩ := Option.bind_eq_some_iff.mp run
      rw [run_cons, next_beyond step outer]
      exact ih further

end Scan

section Leads

variable {first second text : String} {before between after : List Char}

theorem Leads.append (leads : Leads first before between) (further : Leads second between after) :
    Leads (first ++ second) before after := by
  unfold Leads at *
  rw [String.toList_append, Scan.run_append, leads]
  exact further

theorem Balanced.leads (balanced : Balanced text) (awaited : List Char) :
    Leads text awaited awaited :=
  Scan.run_beyond balanced awaited

theorem Leads.balanced (leads : Leads first before between) (balanced : Balanced second) :
    Leads (first ++ second) before between :=
  leads.append (balanced.leads between)

end Leads

def marks : List Char :=
  ['(', ')', '[', ']', '\x7b', '\x7d', '"']

/-- A text without brackets and double quotes. -/
def Neutral (text : List Char) : Prop :=
  ∀ c ∈ text, c ∉ marks

instance (text : List Char) : Decidable (Neutral text) :=
  List.decidableBAll (fun c => c ∉ marks) text

theorem next_of_neutral {c : Char} (neutral : c ∉ marks) :
    Scan.next ⟨.code, []⟩ c = some ⟨.code, []⟩ := by
  simp only [marks, List.mem_cons, List.not_mem_nil, or_false, not_or] at neutral
  obtain ⟨round, round', square, square', curly, curly', quote⟩ := neutral
  have opens : closingOf? c = none := by
    unfold closingOf?
    split <;> first | contradiction | rfl
  simp [Scan.next, scanCode, isClosing, *]

theorem run_neutral {text : List Char} (neutral : Neutral text) :
    Scan.run ⟨.code, []⟩ text = some ⟨.code, []⟩ := by
  induction text with
  | nil => rfl
  | cons c rest ih =>
      rw [Scan.run_cons, next_of_neutral (neutral c List.mem_cons_self)]
      exact ih fun d member => neutral d (List.mem_cons_of_mem c member)

theorem Neutral.balanced {text : String} (neutral : Neutral text.toList) : Balanced text :=
  run_neutral neutral

section Literal

theorem run_inside {text : List Char} (inner : ∀ c ∈ text, c ≠ '"' ∧ c ≠ '\\') :
    Scan.run ⟨.literal, []⟩ text = some ⟨.literal, []⟩ := by
  induction text with
  | nil => rfl
  | cons c rest ih =>
      obtain ⟨⟨quote, escape⟩, others⟩ := List.forall_mem_cons.mp inner
      rw [Scan.run_cons, Scan.next, if_neg quote, if_neg escape]
      exact ih others

theorem run_escaped_byte (byte : UInt8) :
    Scan.run ⟨.literal, []⟩ (escapeByte byte) = some ⟨.literal, []⟩ := by
  obtain ⟨c, spelled, _⟩ | ⟨c, spelled, _, quote, backslash, _⟩ | spelled := escape_byte_cases byte
  · rw [spelled]
    rfl
  · rw [spelled]
    exact run_inside (List.forall_mem_singleton.mpr ⟨quote, backslash⟩)
  · have opened : Scan.run ⟨.literal, []⟩ ['\\', 'x'] = some ⟨.literal, []⟩ := rfl
    rw [spelled, show '\\' :: 'x' :: hexDigits 2 byte.toNat = ['\\', 'x'] ++ hexDigits 2 byte.toNat
      from rfl, Scan.run_append, opened]
    exact run_inside (hex_digits_all (by decide) 2 byte.toNat)

theorem run_escaped (text : List Char) :
    Scan.run ⟨.literal, []⟩ (escape text) = some ⟨.literal, []⟩ := by
  unfold escape
  induction utf8Bytes text with
  | nil => rfl
  | cons byte rest ih =>
      rw [List.flatMap_cons, Scan.run_append, run_escaped_byte, Option.bind_some, ih]

/-- Whatever a literal stands for, its text is scanned as a whole. -/
theorem literal_balanced (value : String) : Balanced (literal value) := by
  have spelled : (literal value).toList = '"' :: (escape value.toList ++ ['"']) := by
    simp [literal, escapeString]
  have opened : Scan.next ⟨.code, []⟩ '"' = some ⟨.literal, []⟩ := rfl
  rw [Balanced, Leads, spelled, Scan.run_cons, opened, Option.bind_some, Scan.run_append,
    run_escaped]
  rfl

theorem word_char_neutral {c : Char} (word : isWordChar c) : c ∉ marks := by
  have others : marks.all fun mark => !isWordChar mark := by decide
  intro member
  have other := List.all_eq_true.mp others c member
  rw [word] at other
  cases other

theorem identifier_balanced (name : String) : Balanced (identifier name) := by
  by_cases bare : isBareIdentifier name
  · rw [identifier_of_bare bare]
    exact Neutral.balanced fun c member =>
      word_char_neutral (word_chars_of_word (word_of_bare bare) c member)
  · rw [quoted_identifier bare]
    exact Leads.balanced (by decide) (literal_balanced name)

end Literal

end ZigBindings
