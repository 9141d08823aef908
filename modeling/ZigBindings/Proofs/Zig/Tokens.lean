import ZigBindings.Proofs.Zig.IdentifierReading
import ZigBindings.Proofs.Zig.Spellings

/-!
# Declared names that are identifiers

An identifier is a bare word, or a literal behind an at sign. Whatever a module declares by a name
that is made an identifier is declared by one. A name that is written as it is has to be one itself;
as a part of the name of a function it has to be made of the characters of a word.
-/

namespace ZigBindings

open ZigBindings.Text ZigBindings.Zig

def isControl (c : Char) : Bool :=
  c.toNat < 32 || c.toNat == 127

def isQuoted : List Char → Bool
  | '@' :: '"' :: body => (readBody body).any (·.2.isEmpty) && !body.any isControl
  | _ => false

/-- Whether a text is one identifier of the language. -/
def isToken (text : String) : Bool :=
  isBareIdentifier text || isQuoted text.toList

theorem not_control_of_printable {c : Char} (printable : isPrintableAscii c) :
    isControl c = false := by
  simp only [isPrintableAscii, Bool.and_eq_true, decide_eq_true_eq, Char.le_def,
    UInt32.le_iff_toNat_le] at printable
  have bounds : 32 ≤ c.toNat ∧ c.toNat ≤ 126 := printable
  simp only [isControl, Bool.or_eq_false_iff, decide_eq_false_iff_not, beq_eq_false_iff_ne]
  omega

theorem identifier_is_token (name : String) : isToken (identifier name) := by
  by_cases bare : isBareIdentifier name
  · rw [identifier_of_bare bare, isToken, bare]
    rfl
  · have spelled : (identifier name).toList = '@' :: '"' :: (escape name.toList ++ ['"']) := by
      simp [quoted_identifier bare, literal, escapeString]
    have read : readBody (escape name.toList ++ ['"']) = some (utf8Bytes name.toList, []) :=
      read_escaped_bytes _ []
    have shown : ∀ c ∈ escape name.toList, isControl c = false := fun c inside =>
      not_control_of_printable (escape_printable name.toList c inside)
    rw [isToken, spelled, isQuoted, read]
    simpa using .inr ⟨shown, rfl⟩

section Quoted

theorem left_of_map {read : Option (List UInt8 × List Char)} {grown : List UInt8 → List UInt8}
    {bytes : List UInt8} {rest : List Char}
    (mapped : read.map (Prod.map grown id) = some (bytes, rest)) :
    ∃ inner, read = some (inner, rest) := by
  obtain ⟨⟨inner, left⟩, rfl, same⟩ := Option.map_eq_some_iff.mp mapped
  cases same
  exact ⟨inner, rfl⟩

theorem body_closed {body rest : List Char} {bytes : List UInt8}
    (read : readBody body = some (bytes, rest)) : ∃ front, body = front ++ '"' :: rest := by
  fun_induction readBody body generalizing bytes with
  | case1 => cases read
  | case2 =>
    cases read
    exact ⟨[], rfl⟩
  | case3 high low others ih =>
    obtain ⟨byte, _, mapped⟩ := Option.bind_eq_some_iff.mp read
    obtain ⟨inner, read⟩ := left_of_map mapped
    obtain ⟨front, rfl⟩ := ih read
    exact ⟨'\\' :: 'x' :: high :: low :: front, rfl⟩
  | case4 c others _ ih =>
    obtain ⟨byte, _, mapped⟩ := Option.bind_eq_some_iff.mp read
    obtain ⟨inner, read⟩ := left_of_map mapped
    obtain ⟨front, rfl⟩ := ih read
    exact ⟨'\\' :: c :: front, rfl⟩
  | case5 c others _ _ _ ih =>
    obtain ⟨inner, read⟩ := left_of_map read
    obtain ⟨front, rfl⟩ := ih read
    exact ⟨c :: front, rfl⟩

theorem quoted_ends {text : List Char} (quoted : isQuoted text) :
    text.head? = some '@' ∧ text.getLast? = some '"' := by
  unfold isQuoted at quoted
  split at quoted
  case h_2 => cases quoted
  case h_1 body =>
    simp only [Bool.and_eq_true, Option.any_eq_true, List.isEmpty_iff, Prod.exists] at quoted
    obtain ⟨⟨bytes, rest, read, rfl⟩, _⟩ := quoted
    obtain ⟨front, rfl⟩ := body_closed read
    exact ⟨rfl, List.getLast?_append (l := '@' :: '"' :: front)⟩

theorem token_iff_bare {text : String} {c : Char} (head : text.toList.head? = some c)
    (other : c ≠ '@') : isToken text ↔ isBareIdentifier text := by
  have unquoted : isQuoted text.toList = false := by
    by_contra quoted
    have start := (quoted_ends (Bool.not_eq_false _ ▸ quoted)).1
    rw [head] at start
    exact other (Option.some.inj start)
  rw [isToken, unquoted, Bool.or_false]

end Quoted

section Bare

theorem word_append {word more : List Char} (isWord : isWord word)
    (inside : ∀ c ∈ more, isWordChar c) : Zig.isWord (word ++ more) := by
  cases word with
  | nil => cases isWord
  | cons c rest =>
    simp only [Zig.isWord, List.cons_append, Bool.and_eq_true, List.all_eq_true] at isWord ⊢
    exact ⟨isWord.1, List.forall_mem_append.mpr ⟨isWord.2, inside⟩⟩

theorem digits_of_width {width : List Char} (isWidth : isWidth width) :
    ∀ c ∈ width, c.isDigit := by
  unfold Zig.isWidth at isWidth
  split at isWidth
  · cases isWidth
  · exact List.forall_mem_singleton.mpr rfl
  · simp only [Bool.and_eq_true, List.all_eq_true] at isWidth
    exact List.forall_mem_cons.mpr ⟨isWidth.1.1, isWidth.2⟩

theorem digits_of_integer_type {chars : List Char} (integer : isIntegerType chars) :
    ∃ c rest, chars = c :: rest ∧ (c = 'i' ∨ c = 'u') ∧ ∀ d ∈ rest, d.isDigit := by
  unfold isIntegerType at integer
  split at integer
  · exact ⟨'i', _, rfl, .inl rfl, digits_of_width integer⟩
  · exact ⟨'u', _, rfl, .inr rfl, digits_of_width integer⟩
  · cases integer

/-- The words of the language, but for the integer types. -/
def reservedWords : List String :=
  "_" :: keywords ++ primitives

theorem bare_iff (name : String) : isBareIdentifier name ↔
    isWord name.toList ∧ name ∉ reservedWords ∧ ¬isIntegerType name.toList := by
  simp only [reservedWords, isBareIdentifier, Bool.and_eq_true, bne_iff_ne, Bool.not_eq_true',
    List.contains_eq_mem, decide_eq_false_iff_not, List.cons_append, List.mem_cons,
    List.mem_append, Bool.not_eq_true]
  tauto

theorem methods_bare {name : String} (bare : isBareIdentifier name) :
    isBareIdentifier (name ++ "Methods") := by
  have others : ∀ word ∈ reservedWords, ¬"Methods".toList <:+ word.toList := by
    decide +kernel
  rw [bare_iff] at bare ⊢
  refine ⟨?_, fun reserved => others _ reserved ?_, fun integer => ?_⟩
  · rw [String.toList_append]
    exact word_append bare.1 (List.all_eq_true.mp (by decide))
  · rw [String.toList_append]
    exact List.suffix_append _ _
  · obtain ⟨c, rest, spelled, _, digits⟩ := digits_of_integer_type integer
    obtain ⟨start, head, _⟩ := start_of_word bare.1
    obtain ⟨behind, first⟩ := List.head?_eq_some_iff.mp head
    rw [String.toList_append, first, List.cons_append] at spelled
    obtain ⟨rfl, rfl⟩ := List.cons.inj spelled
    -- All but the first letter of an integer type are digits.
    exact absurd (digits 's' (by simp)) (by decide)

theorem methods_token_iff (name : String) :
    isToken name ∧ isToken (name ++ "Methods") ↔ isBareIdentifier name := by
  constructor
  · rintro ⟨token, extended⟩
    by_contra notBare
    have quoted : isQuoted name.toList := by
      simpa [isToken, notBare] using token
    obtain ⟨behind, spelled⟩ := List.head?_eq_some_iff.mp (quoted_ends quoted).1
    rcases Bool.or_eq_true_iff.mp extended with bare | quoted
    · obtain ⟨c, head, start⟩ := start_of_word (word_of_bare bare)
      rw [String.toList_append, spelled] at head
      cases head
      exact absurd start (by decide)
    -- Behind the closing quote there would be no room for the ending.
    · have last := (quoted_ends quoted).2
      have ending : "Methods".toList.getLast? = some 's' := by decide
      rw [String.toList_append, List.getLast?_append, ending] at last
      exact absurd (Option.some.inj last) (by decide)
  · intro bare
    exact ⟨by rw [isToken, bare]; rfl, by rw [isToken, methods_bare bare]; rfl⟩

/-- Behind a word that no integer type starts with, a name has to be made of the characters of a
word, and the whole is to be no word of the language. -/
theorem prefixed_token_iff {start rest : String} {c : Char} (isWord : isWord start.toList)
    (head : start.toList.head? = some c) (other : c ≠ '@' ∧ c ≠ 'i' ∧ c ≠ 'u') :
    isToken (start ++ rest) ↔
      (∀ c ∈ rest.toList, isWordChar c) ∧ start ++ rest ∉ reservedWords := by
  have first : (start ++ rest).toList.head? = some c := head_of_start head
  have number : ¬isIntegerType (start ++ rest).toList := by
    intro integer
    obtain ⟨d, _, spelled, letter, _⟩ := digits_of_integer_type integer
    rw [spelled] at first
    cases first
    exact letter.elim other.2.1 other.2.2
  rw [token_iff_bare first other.1, bare_iff, and_iff_left number]
  refine and_congr_left fun _ => ⟨fun word d inside => ?_, fun inside => ?_⟩
  · refine word_chars_of_word word d ?_
    rw [String.toList_append]
    exact List.mem_append_right _ inside
  · rw [String.toList_append]
    exact word_append isWord inside

theorem reserved_prefixed {start rest : String} (reserved : start ++ rest ∈ reservedWords) :
    start ++ rest ∈ reservedWords.filter (start.toList.isPrefixOf ·.toList) := by
  refine List.mem_filter.mpr ⟨reserved, List.isPrefixOf_iff_prefix.mpr ?_⟩
  rw [String.toList_append]
  exact List.prefix_append _ _

end Bare

/-- A signal has a name that can stand behind another one. -/
def Signal.IsConnectable (signal : Signal) : Prop :=
  ∀ c ∈ signal.connectName.toList, isWordChar c

/-- A type has a name that can stand behind another one, with which it makes no keyword. -/
def TypeName.IsConvertible (name : TypeName) : Prop :=
  (∀ c ∈ name.base.toList, isWordChar c) ∧ name.base ≠ "m" ∧ name.base ≠ "ync"

theorem connect_token_iff (signal : Signal) :
    isToken signal.connectName ↔ signal.IsConnectable := by
  have none : reservedWords.filter ("connect".toList.isPrefixOf ·.toList) = [] := by
    decide +kernel
  have fresh : signal.connectName ∉ reservedWords := fun reserved =>
    List.not_mem_nil (none ▸ reserved_prefixed reserved)
  have inside : ∀ c ∈ "connect".toList, isWordChar c := List.all_eq_true.mp (by decide)
  rw [Signal.connectName, prefixed_token_iff (c := 'c') (by decide) (by decide) (by decide),
    ← Signal.connectName, and_iff_left fresh, Signal.IsConnectable, Signal.connectName,
    String.toList_append, List.forall_mem_append, and_iff_right inside]

theorem parent_token_iff (parent : TypeName) :
    isToken ("as" ++ parent.base) ↔ parent.IsConvertible := by
  have both : reservedWords.filter ("as".toList.isPrefixOf ·.toList) =
      ["as" ++ "m", "as" ++ "ync"] := by
    decide +kernel
  have listed : "as" ++ parent.base ∈ reservedWords ↔
      parent.base = "m" ∨ parent.base = "ync" := by
    constructor
    · intro reserved
      have same := reserved_prefixed reserved
      rw [both, List.mem_pair, String.append_right_inj, String.append_right_inj] at same
      exact same
    · rintro (same | same) <;> rw [same] <;> decide +kernel
  rw [prefixed_token_iff (c := 'a') (by decide) (by decide) (by decide), listed, not_or]
  rfl

structure Class.NamesFit (type : Class) : Prop where
  name : isBareIdentifier type.name
  signals : ∀ signal ∈ type.signals, signal.IsConnectable
  parent : ∀ parent ∈ type.parent, parent.IsConvertible

structure Interface.NamesFit (type : Interface) : Prop where
  name : isBareIdentifier type.name
  signals : ∀ signal ∈ type.signals, signal.IsConnectable

/-- The names that are written as they are make identifiers. -/
structure Namespace.NamesFit (space : Namespace) : Prop where
  aliases : ∀ entry ∈ space.aliases, isToken entry.name
  classes : ∀ type ∈ space.classes, type.NamesFit
  interfaces : ∀ type ∈ space.interfaces, type.NamesFit
  records : ∀ type ∈ space.records, isToken type.name
  unions : ∀ type ∈ space.unions, isToken type.name
  enumerations : ∀ type ∈ space.enumerations, isToken type.name
  bitFields : ∀ type ∈ space.bitFields, isToken type.name
  callbacks : ∀ callback ∈ space.callbacks, isToken callback.name

/-- All names are declared by identifiers. -/
def Tokens (spellings : List Spelling) : Prop :=
  ∀ spelling ∈ spellings, isToken spelling.text

section Declared

theorem escaped_token {spelling : Spelling} (escaped : spelling.escaped) :
    isToken spelling.text := by
  rw [Spelling.text, if_pos escaped]
  exact identifier_is_token spelling.name

@[simp]
theorem tokens_append (first second : List Spelling) :
    Tokens (first ++ second) ↔ Tokens first ∧ Tokens second :=
  List.forall_mem_append

@[simp]
theorem tokens_cons (spelling : Spelling) (rest : List Spelling) :
    Tokens (spelling :: rest) ↔ isToken spelling.text ∧ Tokens rest :=
  List.forall_mem_cons

theorem tokens_flat_map {α : Type} (items : List α) (spellings : α → List Spelling) :
    Tokens (items.flatMap spellings) ↔ ∀ item ∈ items, Tokens (spellings item) :=
  List.forall_mem_flatMap

theorem tokens_map {α : Type} (items : List α) (spelling : α → Spelling) :
    Tokens (items.map spelling) ↔ ∀ item ∈ items, isToken (spelling item).text :=
  List.forall_mem_map

@[simp]
theorem callables_tokens (callables : List Callable) :
    Tokens (callables.flatMap Callable.spellings) := by
  refine (tokens_flat_map callables _).mpr fun callable _ => ?_
  unfold Callable.spellings
  split_ifs
  · exact List.forall_mem_nil _
  · exact (tokens_cons _ _).mpr ⟨escaped_token rfl,
      List.forall_mem_singleton.mpr (escaped_token rfl)⟩

@[simp]
theorem fields_tokens (fields : List Field) : Tokens (fields.map Field.spelling) :=
  (tokens_map fields _).mpr fun _ _ => escaped_token rfl

@[simp]
theorem constants_tokens (constants : List Constant) :
    Tokens (constants.map Constant.spelling) :=
  (tokens_map constants _).mpr fun _ _ => escaped_token rfl

@[simp]
theorem members_tokens (members : List Member) : Tokens (members.map Member.spelling) :=
  (tokens_map members _).mpr fun _ _ => escaped_token rfl

theorem type_token_iff (name : String) : isToken (typeSpelling name).text ↔ isToken name :=
  Iff.rfl

theorem types_tokens_iff {α : Type} (items : List α) (name : α → String) :
    Tokens (items.map fun item => typeSpelling (name item)) ↔
      ∀ item ∈ items, isToken (name item) :=
  tokens_map items _

theorem signals_tokens_iff (signals : List Signal) :
    Tokens (signals.map Signal.spelling) ↔ ∀ signal ∈ signals, signal.IsConnectable :=
  (tokens_map signals _).trans (forall₂_congr fun signal _ => connect_token_iff signal)

theorem parent_tokens_iff (parent : Option TypeName) :
    Tokens (parent.toList.map parentSpelling) ↔ ∀ name ∈ parent, name.IsConvertible := by
  rw [tokens_map]
  simp only [Option.mem_toList]
  exact forall₂_congr fun name _ => parent_token_iff name

theorem class_tokens_iff (type : Class) : Tokens type.spellings ↔ type.NamesFit := by
  have names := methods_token_iff type.name
  simp only [Class.spellings, tokens_append, tokens_cons, fields_tokens, callables_tokens,
    constants_tokens, signals_tokens_iff, parent_tokens_iff]
  constructor
  · rintro ⟨⟨own, _⟩, extended, ⟨_, signals⟩, parent⟩
    exact ⟨names.mp ⟨own, extended⟩, signals, parent⟩
  · rintro ⟨name, signals, parent⟩
    obtain ⟨own, extended⟩ := names.mpr name
    exact ⟨⟨own, by simp⟩, extended, ⟨trivial, signals⟩, parent⟩

theorem interface_tokens_iff (type : Interface) : Tokens type.spellings ↔ type.NamesFit := by
  have names := methods_token_iff type.name
  simp only [Interface.spellings, tokens_append, tokens_cons, callables_tokens, constants_tokens,
    signals_tokens_iff]
  constructor
  · rintro ⟨⟨own, _⟩, extended, _, signals⟩
    exact ⟨names.mp ⟨own, extended⟩, signals⟩
  · rintro ⟨name, signals⟩
    obtain ⟨own, extended⟩ := names.mpr name
    exact ⟨⟨own, by simp⟩, extended, trivial, signals⟩

theorem compound_tokens_iff (type : Compound) : Tokens type.spellings ↔ isToken type.name := by
  simp [Compound.spellings, type_token_iff]

theorem enumeration_tokens_iff (type : Enumeration) :
    Tokens type.spellings ↔ isToken type.name := by
  simp [Enumeration.spellings, type_token_iff]

theorem flags_tokens_iff (type : Enumeration) :
    Tokens type.flagSpellings ↔ isToken type.name := by
  have padding : Tokens (if 0 < type.padding then [⟨.entry, "_padding", false⟩] else []) := by
    split_ifs
    · exact List.forall_mem_singleton.mpr (by decide +kernel)
    · exact List.forall_mem_nil _
  simp [Enumeration.flagSpellings, type_token_iff, padding]

theorem namespace_tokens_iff (space : Namespace) :
    Tokens space.spellings ↔ space.NamesFit := by
  simp only [Namespace.spellings, tokens_append, tokens_flat_map _ Class.spellings,
    tokens_flat_map _ Interface.spellings, tokens_flat_map _ Compound.spellings,
    tokens_flat_map _ Enumeration.spellings, tokens_flat_map _ Enumeration.flagSpellings,
    types_tokens_iff, callables_tokens, constants_tokens, class_tokens_iff,
    interface_tokens_iff, compound_tokens_iff, enumeration_tokens_iff, flags_tokens_iff, and_true]
  constructor
  · rintro ⟨⟨⟨⟨⟨⟨⟨aliases, classes⟩, interfaces⟩, records⟩, unions⟩, enumerations⟩, bitFields⟩,
      callbacks⟩
    exact ⟨aliases, classes, interfaces, records, unions, enumerations, bitFields, callbacks⟩
  · rintro ⟨aliases, classes, interfaces, records, unions, enumerations, bitFields, callbacks⟩
    exact ⟨⟨⟨⟨⟨⟨⟨aliases, classes⟩, interfaces⟩, records⟩, unions⟩, enumerations⟩, bitFields⟩,
      callbacks⟩

end Declared

/-- The lines of a module declare names and nothing else. What is made an identifier is declared by
one. All names are, if and only if those that are written as they are make identifiers. -/
theorem declared_names_fit_iff (space : Namespace) :
    Spells space.lines space.spellings ∧
    (∀ spelling ∈ space.spellings, spelling.escaped → isToken spelling.text) ∧
    ((∀ spelling ∈ space.spellings, isToken spelling.text) ↔ space.NamesFit) :=
  ⟨namespace_spells space, fun _ _ escaped => escaped_token escaped, namespace_tokens_iff space⟩

/-- A class with a parent and a signal; its method and its field are named like words of the
language, and its function is not a word at all. -/
def stream : Class where
  name := "Stream"
  parent := some ⟨some "GObject", "Object"⟩
  fields := [{ name := "type", type := .value (.simple {}) }]
  functions := [{ name := "2d", symbol := "g-2d" }]
  methods := [{ name := "resume", symbol := "g_stream_resume" }]
  signals := [{ name := "not-ready" }]

theorem declared_names_fit_iff_stream :
    let space : Namespace := { name := "Gio", classes := [stream] }
    (⟨.constant, "resume", true⟩ ∈ space.spellings ∧ isToken "@\"resume\"") ∧
      space.NamesFit ∧ ∀ spelling ∈ space.spellings, isToken spelling.text := by
  intro space
  obtain ⟨_, escaped, all⟩ := declared_names_fit_iff space
  have member : ⟨.constant, "resume", true⟩ ∈ space.spellings := by decide +kernel
  have quoted : Spelling.text ⟨.constant, "resume", true⟩ = "@\"resume\"" := by decide +kernel
  have fit : space.NamesFit := by
    refine ⟨by simp [space], ?_, by simp [space], by simp [space], by simp [space],
      by simp [space], by simp [space], by simp [space]⟩
    refine List.forall_mem_singleton.mpr ⟨by decide +kernel, ?_, ?_⟩
    · exact List.forall_mem_singleton.mpr (List.all_eq_true.mp (by decide +kernel))
    · rintro _ ⟨rfl⟩
      exact ⟨List.all_eq_true.mp (by decide +kernel), by decide, by decide⟩
  exact ⟨⟨member, quoted ▸ escaped _ member rfl⟩, fit, all.mpr fit⟩

/-- Types that are named like words of the language are declared by these words. -/
theorem words_declared :
    let space : Namespace := {
      name := "Gst"
      aliases := [{ name := "type", type := { name := some ⟨none, "gint"⟩ } }]
      callbacks := [{ name := "error" }] }
    space.lines = ["pub const type = c_int;", "",
        "pub const error = ?*const fn () callconv(.C) void;", ""] ∧
      ¬∀ spelling ∈ space.spellings, isToken spelling.text := by
  decide +kernel

end ZigBindings
