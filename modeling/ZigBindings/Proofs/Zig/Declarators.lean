import ZigBindings.Proofs.Zig.Pointers

/-!
# Pointers of declarators

A declarator in C nests from its word outwards: each star is a pointer to what stands before it, and
may be qualified. A type is written from the outermost pointer inwards. Only the stars that a
declarator ends with are written, one pointer for each; of a text the outermost one is that to
characters that end in a zero. So the pointers of a declarator are kept if none of them is
qualified, and those of a text if there is one only.
-/

namespace ZigBindings

open ZigBindings.Text ZigBindings.Zig

/-- A word, which may be qualified, and the pointers from the one to the word on; of each it is told
whether it is qualified. -/
structure Declarator where
  isConst : Bool := false
  word : String
  pointers : List Bool := []
  word_ne : word ≠ "" := by decide
  word_plain : ∀ c ∈ word.toList, c ≠ ' ' ∧ c ≠ '*' := by simp

namespace Declarator

def pointerText (isConst : Bool) : String :=
  if isConst then "* const" else "*"

def spelling (declarator : Declarator) : String :=
  (if declarator.isConst then "const " else "") ++ declarator.word ++
    String.join (declarator.pointers.map pointerText)

/-- The pointers outside of the last qualified one. -/
def outer (declarator : Declarator) : List Bool :=
  declarator.pointers.rtakeWhile (! ·)

/-- The pointers up to the last qualified one. -/
def inner (declarator : Declarator) : List Bool :=
  declarator.pointers.rdropWhile (! ·)

/-- The spelling of a declarator without its outer pointers. -/
def front (declarator : Declarator) : List Char :=
  (if declarator.isConst then constWord else []) ++
    (declarator.word.toList ++ declarator.inner.flatMap (pointerText · |>.toList))

variable (declarator : Declarator)

theorem inner_append_outer :
    declarator.inner ++ List.replicate declarator.outer.length false = declarator.pointers :=
  run_at_end (by simp) declarator.pointers

theorem spelling_toList :
    declarator.spelling.toList =
      declarator.front ++ List.replicate declarator.outer.length '*' := by
  have qualifier : (if declarator.isConst then "const " else "").toList =
      if declarator.isConst then constWord else [] := by
    cases declarator.isConst <;> rfl
  have stars : (List.replicate declarator.outer.length false).flatMap (pointerText · |>.toList) =
      List.replicate declarator.outer.length '*' := by
    rw [List.flatMap_replicate]
    exact List.flatten_replicate_singleton
  rw [spelling, String.toList_append, String.toList_append, String.toList_join, List.flatMap_map,
    qualifier, ← inner_append_outer, List.flatMap_append, stars, front]
  simp only [List.append_assoc]

theorem head_of_pointers (pointers : List Bool) :
    ∀ c ∈ (pointers.flatMap (pointerText · |>.toList)).head?, c = '*' := by
  cases pointers with
  | nil => simp
  | cons isConst others =>
      cases isConst <;> rintro _ ⟨rfl⟩ <;> rfl

theorem last_of_front : declarator.front.getLast? ≠ some '*' := by
  unfold front
  rcases List.eq_nil_or_concat' declarator.inner with nothing | ⟨others, isConst, split⟩
  · obtain ⟨c, last⟩ : ∃ c, declarator.word.toList.getLast? = some c :=
      Option.isSome_iff_exists.mp (by simpa using declarator.word_ne)
    have other := (declarator.word_plain c (List.mem_of_getLast? last)).2
    rw [nothing, List.flatMap_nil, List.append_nil, List.getLast?_append, last]
    simpa using other
  · have qualified : isConst = true := by
      have last : declarator.inner.getLast? = some isConst := by
        rw [split, List.getLast?_concat]
      simpa using last_left last
    rw [split, qualified, List.flatMap_append, ← List.append_assoc, ← List.append_assoc,
      List.getLast?_append]
    simp [pointerText]

theorem word_not_qualifier (pointers : List Bool) :
    ¬constWord.isPrefixOf
      (declarator.word.toList ++ pointers.flatMap (pointerText · |>.toList)) := by
  intro starts
  obtain ⟨tail, same⟩ := List.isPrefixOf_iff_prefix.mp starts
  have star := head_of_pointers pointers
  generalize pointers.flatMap (pointerText · |>.toList) = behind at star same
  -- Up to the first blank or star both are the word of the declarator.
  have ended : behind.takeWhile (fun c => c ≠ ' ' && c ≠ '*') = [] := by
    cases behind with
    | nil => rfl
    | cons c rest => simp [star c rfl]
  have words := congrArg (List.takeWhile fun c => c ≠ ' ' && c ≠ '*') same
  have plain : ∀ c ∈ declarator.word.toList, (c ≠ ' ' && c ≠ '*') = true := by
    simpa using declarator.word_plain
  rw [List.takeWhile_append_of_pos plain, ended, List.append_nil] at words
  have word : ['c', 'o', 'n', 's', 't'] = declarator.word.toList := words
  rw [← word] at same
  have blank : behind = ' ' :: tail :=
    (@List.append_cancel_left _ ['c', 'o', 'n', 's', 't'] _ _ same).symm
  exact absurd (star ' ' (by rw [blank]; rfl)) (by decide)

theorem const_count_front : constCount declarator.front = if declarator.isConst then 1 else 0 := by
  have word := const_count_of_other (declarator.word_not_qualifier declarator.inner)
  unfold front
  cases declarator.isConst with
  | false => exact word
  | true => exact congrArg (· + 1) word

theorem spelling_read (name : TypeName) :
    name.spelled declarator.spelling = declarator.spelling.toList := by
  have word : declarator.spelling ≠ "" := by
    simp [spelling, declarator.word_ne]
  simp [TypeName.spelled, word]

theorem star_count : starCount declarator.spelling.toList = declarator.outer.length := by
  rw [spelling_toList]
  exact (star_count_append declarator.last_of_front _).1

theorem const_count :
    constCount (starless declarator.spelling.toList) = if declarator.isConst then 1 else 0 := by
  rw [spelling_toList, (star_count_append declarator.last_of_front _).2]
  exact declarator.const_count_front

theorem outer_of_free (free : ∀ isConst ∈ declarator.pointers, isConst = false) :
    declarator.outer = declarator.pointers :=
  List.rtakeWhile_eq_self_iff.mpr fun isConst member => by simp [free isConst member]

end Declarator

/-- A text has these pointers in front of its base, the outermost first, and no more than qualifiers
beside them. -/
def HasPointers (text base : String) (pointers : List Sigil) : Prop :=
  ∃ sigils, text = sigilText sigils ++ base ∧ sigils.filter (· ≠ .const) = pointers

/-- What is written for a type keeps the pointers of its declarator: there are as many of them, and
the innermost one of a text is that to characters that end in a zero. -/
def KeepsPointers (declarator : Declarator) (name : TypeName) (current : String) : Prop :=
  ∃ pointers,
    HasPointers (SimpleType.text ⟨some name, declarator.spelling⟩ current)
      (name.target.written current) pointers ∧
    pointers.length = declarator.pointers.length ∧
    (name.isText → declarator.pointers ≠ [] → pointers.getLast? = some .textPointer)

section Sigils

theorem letters_injective {sigils others : List Sigil}
    (same : sigils.flatMap Sigil.letters = others.flatMap Sigil.letters) : sigils = others := by
  induction sigils generalizing others with
  | nil =>
      cases others with
      | nil => rfl
      | cons sigil rest => cases sigil <;> cases same
  | cons sigil rest ih =>
      cases others with
      | nil => cases sigil <;> cases same
      | cons other more =>
          rw [List.flatMap_cons, List.flatMap_cons] at same
          -- No two sigils start with the same sign.
          have equal : sigil = other := by
            cases sigil <;> cases other <;> first | rfl | cases same
          subst equal
          rw [ih (List.append_cancel_left same)]

theorem HasPointers.unique {text base : String} {pointers others : List Sigil}
    (first : HasPointers text base pointers) (second : HasPointers text base others) :
    pointers = others := by
  obtain ⟨sigils, written, rfl⟩ := first
  obtain ⟨more, written', rfl⟩ := second
  have same : sigilText sigils = sigilText more :=
    (String.append_left_inj base).mp (written.symm.trans written')
  rw [letters_injective (String.ofList_injective same)]

theorem pointer_sigils_length (isText : Bool) (stars : Nat) :
    (pointerSigils isText stars).length = stars := by
  cases stars with
  | zero => rfl
  | succ others => simp [pointerSigils]

theorem pointers_among_sigils (isText : Bool) (stars consts : Nat) :
    (pointerSigils isText stars ++ constSigils stars consts).filter (· ≠ .const) =
      pointerSigils isText stars := by
  have pointers : ∀ sigil ∈ pointerSigils isText stars, sigil ≠ .const := by
    cases stars with
    | zero => exact List.forall_mem_nil _
    | succ others => cases isText <;> simp [pointerSigils]
  have consts : ∀ sigil ∈ constSigils stars consts, sigil = .const := by
    unfold constSigils
    split
    · exact fun sigil => List.eq_of_mem_replicate
    · exact List.forall_mem_nil _
  rw [List.filter_append, List.filter_eq_self.mpr (by simpa using pointers),
    List.filter_eq_nil_iff.mpr (by simpa using consts), List.append_nil]

end Sigils

/-- The outer pointers of a declarator are written, and no others. -/
theorem declarator_pointers {declarator : Declarator} {name : TypeName} {current : String}
    (typed : declarator.spelling ∉ ["gpointer", "gconstpointer"]) :
    HasPointers (SimpleType.text ⟨some name, declarator.spelling⟩ current)
      (name.target.written current) (pointerSigils name.isText declarator.outer.length) := by
  refine ⟨_, ?_, pointers_among_sigils name.isText declarator.outer.length
    (if declarator.isConst then 1 else 0)⟩
  have closed := @named_text_eq_sigils name current (some declarator.spelling)
  rw [declarator.spelling_read, declarator.star_count, declarator.const_count] at closed
  exact (@text_of_typed name current (some declarator.spelling) typed).trans closed

/-- Of a declarator the outer pointers are written, each of them once: all of its pointers, if none
of them is qualified. Those of a text start with one to characters that end in a zero, and only that
one is of its kind; it is the innermost one if there is no other. -/
theorem outer_pointers_kept (declarator : Declarator) (name : TypeName) (current : String)
    (typed : declarator.spelling ∉ ["gpointer", "gconstpointer"]) :
    ∃ pointers,
      HasPointers (SimpleType.text ⟨some name, declarator.spelling⟩ current)
        (name.target.written current) pointers ∧
      pointers.length = declarator.outer.length ∧
      ((∀ isConst ∈ declarator.pointers, isConst = false) →
        pointers.length = declarator.pointers.length) ∧
      (name.isText → declarator.outer ≠ [] →
        pointers.head? = some .textPointer ∧ pointers.count .textPointer = 1 ∧
        (declarator.outer.length = 1 → pointers.getLast? = some .textPointer)) := by
  refine ⟨_, declarator_pointers typed, pointer_sigils_length _ _, fun free => ?_, ?_⟩
  · rw [pointer_sigils_length, declarator.outer_of_free free]
  · intro isText outer
    rw [isText]
    cases stars : declarator.outer.length with
    | zero => exact absurd (List.length_eq_zero_iff.mp stars) outer
    | succ others =>
        refine ⟨rfl, ?_, ?_⟩
        · simp [pointerSigils, List.count_replicate]
        · intro single
          cases Nat.succ.inj single
          rfl

/-- Of three pointers, the innermost of them qualified, two are written; a pointer to characters is
kept. -/
theorem outer_pointers_kept_behind_qualified :
    ("char* const**" ∉ ["gpointer", "gconstpointer"] ∧
      ∃ pointers, HasPointers
          (SimpleType.text ⟨some ⟨none, "utf8"⟩, some "char* const**"⟩ "Gtk") "u8" pointers ∧
        pointers.length = 2 ∧ pointers.head? = some .textPointer) ∧
      "const char*" ∉ ["gpointer", "gconstpointer"] ∧
      ∃ pointers, HasPointers
          (SimpleType.text ⟨some ⟨none, "filename"⟩, some "const char*"⟩ "Gtk") "u8" pointers ∧
        pointers.length = 1 ∧ pointers.getLast? = some .textPointer := by
  have typed : "char* const**" ∉ ["gpointer", "gconstpointer"] ∧
      "const char*" ∉ ["gpointer", "gconstpointer"] := by
    decide
  obtain ⟨pointers, written, length, _, text⟩ := outer_pointers_kept
    { word := "char", pointers := [true, false, false] } ⟨none, "utf8"⟩ "Gtk" typed.1
  obtain ⟨kept, written', _, free, text'⟩ := outer_pointers_kept
    { isConst := true, word := "char", pointers := [false] } ⟨none, "filename"⟩ "Gtk" typed.2
  exact ⟨⟨typed.1, pointers, written, length, (text rfl (by decide)).1⟩,
    typed.2, kept, written', free (by decide), (text' rfl (by decide)).2.2 rfl⟩

/-- The pointers of a declarator are not always kept: those of a text change their places, and a
pointer that is qualified is not written. -/
theorem pointers_not_kept :
    ({ word := "char", pointers := [false, false] } : Declarator).spelling = "char**" ∧
      ¬KeepsPointers { word := "char", pointers := [false, false] } ⟨none, "utf8"⟩ "Gtk" ∧
      ({ word := "gint", pointers := [true] } : Declarator).spelling = "gint* const" ∧
      ¬KeepsPointers { word := "gint", pointers := [true] } ⟨none, "gint"⟩ "Gtk" := by
  refine ⟨by decide, ?_, by decide, ?_⟩
  · rintro ⟨pointers, written, _, last⟩
    rw [written.unique (declarator_pointers (by decide))] at last
    exact absurd (last rfl (by decide)) (by decide)
  · rintro ⟨pointers, written, length, _⟩
    rw [written.unique (declarator_pointers (by decide))] at length
    exact absurd length (by decide)

end ZigBindings
