import Mathlib.Data.List.DropRight
import ZigBindings.Zig.TypeText

/-!
# Pointers in closed form

The spelling of a type in C is taken off from both ends by turns. What is written for it in front of
the base comes down to two counts: the stars that the spelling ends with, and the qualifiers that it
starts with when those stars are gone. Each of the stars is a pointer, the outermost of a text being
one to characters that end in a zero; the qualifiers are written if there is a pointer at all.
-/

namespace ZigBindings

open ZigBindings.Text ZigBindings.Zig

/-- What may stand in front of the base of a type. -/
inductive Sigil where
  | pointer
  | textPointer
  | const
  deriving DecidableEq

def Sigil.letters : Sigil → List Char
  | .pointer => ['*']
  | .textPointer => ['[', '*', ':', '0', ']']
  | .const => ['c', 'o', 'n', 's', 't', ' ']

def sigilText (sigils : List Sigil) : String :=
  String.ofList (sigils.flatMap Sigil.letters)

def starCount (spelling : List Char) : Nat :=
  (spelling.rtakeWhile (· = '*')).length

def starless (spelling : List Char) : List Char :=
  spelling.rdropWhile (· = '*')

def constCount : List Char → Nat
  | 'c' :: 'o' :: 'n' :: 's' :: 't' :: ' ' :: rest => constCount rest + 1
  | _ => 0

/-- As many pointers as there are stars, the outermost first. -/
def pointerSigils (isText : Bool) : Nat → List Sigil
  | 0 => []
  | others + 1 => (if isText then .textPointer else .pointer) :: List.replicate others .pointer

def constSigils (stars consts : Nat) : List Sigil :=
  if 0 < stars then List.replicate consts .const else []

/-- A name for UTF-8 text or for a file name, which are types of their own only without a
namespace. -/
def TypeName.isText (name : TypeName) : Bool :=
  name.space.isNone && (name.base = "utf8" || name.base = "filename")

/-- The name that stands for a name in a module: the type of types is defined in one place, and
texts are made of characters. -/
def TypeName.target (name : TypeName) : TypeName :=
  if name.base = "GType" then ⟨some "gobject", "Type"⟩
  else if name.isText then ⟨none, "gchar"⟩
  else name

/-- How a name is written: as the builtin type that it stands for, or behind its module. -/
def TypeName.written (name : TypeName) (current : String) : String :=
  match name.space with
  | none => (builtins.lookup name.base).getD name.base
  | some space => modulePrefix (some space) current ++ name.base

/-- The spelling that is read for a name; a text that comes without one is a pointer to
characters. -/
def TypeName.spelled (name : TypeName) (spelling : Option String) : List Char :=
  if name.isText && spelling.getD "" = "" then "char*".toList else (spelling.getD "").toList

section Ends

variable {α : Type} {taken : α → Bool}

theorem run_at_end {sign : α} (only : ∀ other, taken other → other = sign) (list : List α) :
    list.rdropWhile taken ++ List.replicate (list.rtakeWhile taken).length sign = list := by
  have run : list.rtakeWhile taken = List.replicate (list.rtakeWhile taken).length sign :=
    List.eq_replicate_iff.mpr ⟨rfl, fun other member => only other (List.mem_rtakeWhile_imp member)⟩
  rw [← run]
  exact List.rdropWhile_append_rtakeWhile

theorem last_left {list : List α} {sign : α}
    (last : (list.rdropWhile taken).getLast? = some sign) : ¬taken sign := by
  have nonempty : list.rdropWhile taken ≠ [] := by
    intro nothing
    rw [nothing] at last
    cases last
  rw [← (List.getLast_eq_iff_getLast?_eq_some nonempty).mpr last]
  exact List.rdropWhile_last_not taken list nonempty

end Ends

section Peel

theorem starless_append_stars (spelling : List Char) :
    starless spelling ++ List.replicate (starCount spelling) '*' = spelling :=
  run_at_end (fun _ => of_decide_eq_true) spelling

theorem last_of_starless (spelling : List Char) : (starless spelling).getLast? ≠ some '*' :=
  fun last => last_left last (decide_eq_true rfl)

theorem star_count_pos_iff {spelling : List Char} :
    0 < starCount spelling ↔ spelling.getLast? = some '*' := by
  have split := starless_append_stars spelling
  cases count : starCount spelling with
  | zero =>
      rw [count, List.replicate_zero, List.append_nil] at split
      have last := last_of_starless spelling
      rw [split] at last
      simp [last]
  | succ others =>
      rw [count, List.replicate_succ', ← List.append_assoc] at split
      have last : spelling.getLast? = some '*' := by
        rw [← split, List.getLast?_concat]
      simp [last]

theorem star_count_append {front : List Char} (last : front.getLast? ≠ some '*') (stars : Nat) :
    starCount (front ++ List.replicate stars '*') = stars ∧
      starless (front ++ List.replicate stars '*') = front := by
  unfold starCount starless
  induction stars with
  | zero =>
      have other : ∀ nonempty : front ≠ [], ¬decide (front.getLast nonempty = '*') = true :=
        fun nonempty star =>
          last ((List.getLast_eq_iff_getLast?_eq_some nonempty).mp (of_decide_eq_true star))
      rw [List.replicate_zero, List.append_nil, List.rdropWhile_eq_self_iff.mpr other,
        List.rtakeWhile_eq_nil_iff.mpr other]
      exact ⟨rfl, rfl⟩
  | succ stars ih =>
      rw [List.replicate_succ', ← List.append_assoc, List.rtakeWhile_concat, List.rdropWhile_concat]
      simp [ih]

theorem peel_star (pointer : Bool) (spelling : List Char) :
    peel pointer (spelling ++ ['*']) = '*' :: peel true spelling := by
  cases spelled : spelling ++ ['*'] with
  | nil => simp at spelled
  | cons c rest =>
      have last : (c :: rest).getLast? = some '*' := by
        rw [← spelled, List.getLast?_concat]
      rw [peel, if_pos last, ← spelled, List.dropLast_concat]

theorem peel_stars (pointer : Bool) (spelling : List Char) (stars : Nat) :
    peel pointer (spelling ++ List.replicate stars '*') =
      List.replicate stars '*' ++ peel (pointer || 0 < stars) spelling := by
  induction stars generalizing pointer with
  | zero => simp
  | succ stars ih =>
      conv_lhs => rw [List.replicate_succ', ← List.append_assoc, peel_star, ih]
      simp [List.replicate_succ]

theorem const_count_of_qualifier {spelling : List Char} (starts : constWord.isPrefixOf spelling) :
    constCount spelling = constCount (spelling.drop constWord.length) + 1 := by
  obtain ⟨rest, rfl⟩ := List.isPrefixOf_iff_prefix.mp starts
  rfl

theorem const_count_of_other {spelling : List Char} (other : ¬constWord.isPrefixOf spelling) :
    constCount spelling = 0 := by
  unfold constCount
  split
  · exact absurd (List.isPrefixOf_iff_prefix.mpr (List.prefix_append constWord _)) other
  · rfl

theorem peel_consts {spelling : List Char} (last : spelling.getLast? ≠ some '*') (pointer : Bool) :
    peel pointer spelling =
      if pointer then (List.replicate (constCount spelling) constWord).flatten else [] := by
  fun_induction peel pointer spelling with
  | case1 => simp [constCount]
  | case2 _ _ _ star => exact absurd star last
  | case3 pointer c rest _ starts ih =>
      have further : ((c :: rest).drop constWord.length).getLast? ≠ some '*' := by
        rw [List.getLast?_drop]
        split
        · simp
        · exact last
      rw [const_count_of_qualifier starts, ih further]
      cases pointer with
      | false => rfl
      | true => simp [List.replicate_succ]
  | case4 _ _ _ _ other => simp [const_count_of_other other]

theorem letters_of_consts (consts : Nat) :
    (List.replicate consts Sigil.const).flatMap Sigil.letters =
      (List.replicate consts constWord).flatten :=
  List.flatMap_replicate

theorem letters_of_pointers (stars : Nat) :
    (List.replicate stars Sigil.pointer).flatMap Sigil.letters = List.replicate stars '*' := by
  rw [List.flatMap_replicate]
  exact List.flatten_replicate_singleton

/-- What is taken off a spelling is told by its two counts. -/
theorem peel_eq_sigils (spelling : List Char) :
    peel false spelling =
      (pointerSigils false (starCount spelling) ++
          constSigils (starCount spelling) (constCount (starless spelling))).flatMap
        Sigil.letters := by
  have taken := peel_stars false (starless spelling) (starCount spelling)
  rw [starless_append_stars, peel_consts (last_of_starless spelling)] at taken
  rw [taken, List.flatMap_append]
  cases starCount spelling with
  | zero => rfl
  | succ others =>
      have pointers : pointerSigils false (others + 1) = List.replicate (others + 1) .pointer := by
        rw [List.replicate_succ]
        rfl
      simp [pointers, letters_of_pointers, constSigils, letters_of_consts]

theorem peel_text_eq_sigils (spelling : List Char) :
    peelText spelling =
      (pointerSigils true (starCount spelling) ++
          constSigils (starCount spelling) (constCount (starless spelling))).flatMap
        Sigil.letters := by
  unfold peelText
  by_cases last : spelling.getLast? = some '*'
  · obtain ⟨others, count⟩ := Nat.exists_eq_add_one_of_ne_zero (star_count_pos_iff.mpr last).ne'
    have front : spelling.dropLast = starless spelling ++ List.replicate others '*' := by
      conv_lhs => rw [← starless_append_stars spelling, count, List.replicate_succ',
        ← List.append_assoc]
      exact List.dropLast_concat
    rw [if_pos last, front, peel_stars, peel_consts (last_of_starless spelling), count]
    simp [pointerSigils, constSigils, letters_of_consts, letters_of_pointers, Sigil.letters]
  · have count : starCount spelling = 0 := Nat.eq_zero_of_not_pos (star_count_pos_iff.not.mpr last)
    rw [if_neg last, peel_consts last, count]
    rfl

end Peel

section Text

variable {name : TypeName} {current : String}

theorem base_text_eq_written : baseText name current = name.written current := by
  obtain ⟨space, base⟩ := name
  unfold baseText TypeName.written
  cases space with
  | none => cases builtins.lookup base <;> simp [modulePrefix]
  | some space => rfl

theorem text_name_resolved : isTextName (resolvedName name) = name.isText := by
  unfold resolvedName
  by_cases object : name.base = "GType"
  · simp [object, isTextName, TypeName.isText]
  · rw [if_neg object]
    simp [isTextName, TypeName.isText, textNames]

theorem target_of_text (isText : name.isText = true) : name.target = ⟨none, "gchar"⟩ := by
  unfold TypeName.target
  by_cases object : name.base = "GType"
  · simp [TypeName.isText, object] at isText
  · rw [if_neg object, if_pos isText]

theorem target_of_other (other : name.isText = false) : name.target = resolvedName name := by
  simp [TypeName.target, resolvedName, other]

theorem named_text_eq_sigils (spelling : Option String) :
    namedText name (spelling.getD "") current =
      sigilText (pointerSigils name.isText (starCount (name.spelled spelling)) ++
        constSigils (starCount (name.spelled spelling))
          (constCount (starless (name.spelled spelling)))) ++ name.target.written current := by
  unfold namedText
  simp only [text_name_resolved]
  cases isText : name.isText with
  | true =>
      have read : (if spelling.getD "" = "" then "char*" else spelling.getD "").toList =
          name.spelled spelling := by
        unfold TypeName.spelled
        split_ifs <;> simp_all
      rw [if_pos rfl, read, peel_text_eq_sigils, base_text_eq_written, target_of_text isText,
        sigilText]
  | false =>
      have read : (spelling.getD "").toList = name.spelled spelling := by
        simp [TypeName.spelled, isText]
      rw [if_neg Bool.false_ne_true, read, peel_eq_sigils, base_text_eq_written,
        target_of_other isText, sigilText]

theorem lookup_of_typed {spelling : Option String}
    (typed : spelling.getD "" ∉ ["gpointer", "gconstpointer"]) :
    untypedPointers.lookup (spelling.getD "") = none := by
  rw [List.lookup_eq_none_iff]
  simpa [untypedPointers] using typed

theorem text_of_typed {spelling : Option String}
    (typed : spelling.getD "" ∉ ["gpointer", "gconstpointer"]) :
    SimpleType.text ⟨some name, spelling⟩ current = namedText name (spelling.getD "") current := by
  simp only [SimpleType.text, lookup_of_typed typed]

end Text

end ZigBindings
