import Mathlib.Tactic.SplitIfs
import ZigBindings.Generation.Generator
import ZigBindings.Proofs.Markup.Rejected

/-!
# Module texts are no documents

Directories may overlap, and then what has been written may be asked for. But a module starts with
an import line, or with a blank line and a declaration, and no repository can be read from that;
nor can one be read from a file that has just been created.
-/

namespace ZigBindings

open ZigBindings.Text ZigBindings.Markup

/-- The first of some lines, if there is one, starts a declaration. -/
def Opens (lines : List String) : Prop :=
  ∀ first ∈ lines.head?, first.toList.head? = some 'p' ∨ first.toList.head? = some 'e'

theorem opens_nil : Opens [] := by
  simp [Opens]

theorem Opens.append {first second : List String} (opens : Opens first) (more : Opens second) :
    Opens (first ++ second) := by
  cases first with
  | nil => exact more
  | cons line rest => exact opens

theorem opens_flatMap {α : Type} {lines : α → List String} (items : List α)
    (each : ∀ item, Opens (lines item)) : Opens (items.flatMap lines) := by
  induction items with
  | nil => exact opens_nil
  | cons item rest ih => exact (each item).append ih

theorem function_opens (callable : Callable) (current : String) :
    Opens (callable.functionLines current 0) := by
  unfold Callable.functionLines
  split_ifs
  · exact opens_nil
  · simp [Opens, Callable.lines, indent]

theorem callback_opens (callback : Callback) (current : String) :
    Opens (callback.lines current) := by
  unfold Callback.lines
  split_ifs <;> simp [Opens]

theorem namespace_opens (space : Namespace) : Opens space.lines := by
  have aliases := opens_flatMap space.aliases fun entry =>
    show Opens (entry.lines space.name) by simp [Opens, Alias.lines]
  have classes := opens_flatMap space.classes fun entry =>
    show Opens (entry.lines space.name) by simp [Opens, Class.lines, opening]
  have interfaces := opens_flatMap space.interfaces fun entry =>
    show Opens (entry.lines space.name) by simp [Opens, Interface.lines, opening]
  have compounds (items : List Compound) (kind : String) := opens_flatMap items
    fun entry => show Opens (entry.lines kind space.name) by simp [Opens, Compound.lines, opening]
  have enumerations := opens_flatMap space.enumerations fun entry =>
    show Opens (entry.lines space.name) by simp [Opens, Enumeration.lines]
  have bitFields := opens_flatMap space.bitFields fun entry =>
    show Opens (entry.flagLines space.name) by simp [Opens, Enumeration.flagLines]
  have functions := opens_flatMap space.functions fun entry =>
    function_opens entry space.name
  have callbacks := opens_flatMap space.callbacks fun entry =>
    callback_opens entry space.name
  have constants := opens_flatMap space.constants fun entry =>
    show Opens (entry.lines space.name 0) by simp [Opens, Constant.lines, indent]
  exact ((((((((aliases.append classes).append interfaces).append (compounds _ _)).append
    (compounds _ _)).append enumerations).append bitFields).append functions).append
    callbacks).append constants

theorem join_cons (line : String) (rest : List String) :
    joinLines (line :: rest) = line ++ "\n" ++ joinLines rest := by
  simp [joinLines, String.join_cons]

/-- Bytes from which no repository can be read, wherever they are. -/
def NoDocument (content : List UInt8) : Prop :=
  ∀ path repository, Repository.read path (.bytes content) ≠ .ok repository

theorem no_document_of_plainly {content : List UInt8}
    (shown : Encoding.detect content = (.utf8, content)) (plainly : StartsPlainly content) :
    NoDocument content := by
  intro path repository read
  rw [Repository.read, malformed_of_plainly shown plainly] at read
  cases read

theorem plainly_of_first (byte : UInt8) (rest : List UInt8) (word : isBlankByte byte = false)
    (untagged : byte ≠ 0x3C) : StartsPlainly (byte :: rest) := by
  unfold StartsPlainly
  rw [List.dropWhile_cons_of_neg (by simp [word])]
  simpa using untagged

theorem no_document_nil : NoDocument [] :=
  no_document_of_plainly rfl (by simp [StartsPlainly])

/-- A module that imports others starts with an import line, whatever is left of an older text. -/
theorem no_document_of_imports (name : String) (rest : List String) (old : List UInt8) :
    NoDocument (Files.overlay (utf8Bytes (joinLines (importLine name :: rest)).toList) old) := by
  have starts : ∃ behind, (joinLines (importLine name :: rest)).toList = 'c' :: 'o' :: behind := by
    simp [join_cons, importLine]
  obtain ⟨behind, spelled⟩ := starts
  rw [spelled]
  exact no_document_of_plainly rfl (plainly_of_first 0x63 _ (by decide) (by decide))

theorem no_document_of_declarations (space : Namespace) :
    NoDocument (utf8Bytes (space.moduleText [""]).toList) := by
  have opens := namespace_opens space
  unfold Namespace.moduleText
  rw [List.cons_append, join_cons]
  cases declared : space.lines with
  | nil =>
      have feed : utf8Bytes ("" ++ "\n" ++ joinLines ([] ++ [])).toList = [0x0A] := by
        simp [joinLines]
        decide
      rw [feed]
      exact no_document_of_plainly rfl (by simp [StartsPlainly, isBlankByte])
  | cons first others =>
      rw [declared] at opens
      have spelled : ∃ c behind, (c = 'p' ∨ c = 'e') ∧
          ("" ++ "\n" ++ joinLines (first :: others)).toList = '\n' :: c :: behind := by
        rw [join_cons]
        rcases opens first rfl with head | head
        · obtain ⟨rest, same⟩ := List.head?_eq_some_iff.mp head
          simp [same]
        · obtain ⟨rest, same⟩ := List.head?_eq_some_iff.mp head
          simp [same]
      obtain ⟨c, behind, isWord, same⟩ := spelled
      rw [List.nil_append, same]
      rcases isWord with rfl | rfl
      · exact no_document_of_plainly rfl
          (plainly_of_first 0x70 (utf8Bytes behind) (by decide) (by decide))
      · exact no_document_of_plainly rfl
          (plainly_of_first 0x65 (utf8Bytes behind) (by decide) (by decide))

end ZigBindings
