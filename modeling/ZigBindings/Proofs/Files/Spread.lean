import Mathlib.Data.List.Basic
import ZigBindings.Files.Tree

/-!
# Where files change

Creating a file and writing over one change what is at one location, and never what is a directory.
So a path leads to the same location before and after, and only what is read at the locations that
were written to can differ.
-/

namespace ZigBindings

namespace Files

variable {files : Files} {location : Location}

theorem lookup_replaced {α β : Type} [BEq α] [LawfulBEq α] [DecidableEq α] (entries : List (α × β))
    (key other : α) (value : β) :
    (entries.map fun old => if old.1 = key then (key, value) else old).lookup other =
      if other = key then (entries.lookup key).map fun _ => value else entries.lookup other := by
  induction entries with
  | nil => simp
  | cons entry rest ih =>
      obtain ⟨name, old⟩ := entry
      rw [List.map_cons]
      by_cases asked : other = name
      · subst asked
        by_cases here : other = key
        · subst here
          simp
        · simp [here]
      · have miss : (other == name) = false := beq_eq_false_iff_ne.mpr asked
        by_cases here : name = key
        · subst here
          simp only [if_true, List.lookup_cons, miss, ih, asked, if_false]
        · have skip : (key == name) = false := beq_eq_false_iff_ne.mpr (Ne.symm here)
          simp only [here, if_false, List.lookup_cons, miss, skip, ih]

theorem at_put_same (files : Files) {entry : FileEntry}
    (plain : files.at? location ≠ some .directory) :
    (files.put location entry).at? location = some entry := by
  unfold at? at plain ⊢
  split_ifs at plain ⊢ with outer
  · exact absurd rfl plain
  · unfold put
    split_ifs with there
    · rw [lookup_replaced, if_pos rfl]
      obtain ⟨old, found⟩ := Option.isSome_iff_exists.mp there
      rw [found]
      rfl
    · rw [List.lookup_append, Option.not_isSome_iff_eq_none.mp there]
      simp

theorem at_put_other (files : Files) {other : Location} (entry : FileEntry)
    (different : other ≠ location) : (files.put location entry).at? other = files.at? other := by
  unfold at?
  split_ifs with outer
  · rfl
  · unfold put
    split_ifs with there
    · rw [lookup_replaced, if_neg different]
    · have miss : (other == location) = false := beq_eq_false_iff_ne.mpr different
      simp [List.lookup_append, List.lookup_cons, miss]

theorem directory_of_follow {component : String} {rest : List String} {target : Location}
    (reached : files.follow location (component :: rest) = .ok target) :
    files.at? location = some .directory := by
  rw [follow] at reached
  split at reached
  · cases reached
  · cases reached
  · assumption

/-- Files differ at some places only, and where they do there is now a file with a content of some
kind and was no directory before. -/
def Spread (places : Location → Prop) (kind : List UInt8 → Prop) (before after : Files) : Prop :=
  ∀ location, after.at? location = before.at? location ∨
    (places location ∧ before.at? location ≠ some .directory ∧
      ∃ content, kind content ∧ after.at? location = some (.file content))

section Spread

variable {places : Location → Prop} {kind : List UInt8 → Prop} {before middle after : Files}

theorem spread_refl (files : Files) : Spread places kind files files :=
  fun _ => .inl rfl

theorem Spread.directory_iff (spread : Spread places kind before after) (location : Location) :
    after.at? location = some .directory ↔ before.at? location = some .directory := by
  rcases spread location with same | ⟨_, plain, content, _, changed⟩
  · rw [same]
  · rw [changed]
    exact ⟨fun absurd => by simp at absurd, fun was => absurd was plain⟩

theorem Spread.trans (first : Spread places kind before middle)
    (second : Spread places kind middle after) : Spread places kind before after := by
  intro location
  rcases second location with same | ⟨place, plain, content, fits, changed⟩
  · rw [same]
    exact first location
  · refine .inr ⟨place, ?_, content, fits, changed⟩
    exact fun was => plain ((first.directory_iff location).mpr was)

theorem Spread.follow_iff (spread : Spread places kind before after) {components : List String}
    {start target : Location} :
    after.follow start components = .ok target ↔ before.follow start components = .ok target := by
  induction components generalizing start with
  | nil => rfl
  | cons component rest ih =>
      by_cases directory : before.at? start = some .directory
      · rw [follow, follow, directory, (spread.directory_iff start).mpr directory]
        split_ifs
        · rfl
        · exact ih
        · exact ih
      · constructor
        · intro reached
          exact absurd ((spread.directory_iff start).mp (directory_of_follow reached)) directory
        · intro reached
          exact absurd (directory_of_follow reached) directory

theorem Spread.locate_iff (spread : Spread places kind before after) {path : Path}
    {location : Location} :
    after.locate path = .ok location ↔ before.locate path = .ok location := by
  unfold locate
  split_ifs
  · rfl
  · exact spread.follow_iff
  · exact spread.follow_iff

end Spread

section Read

variable {path : Path} {content : List UInt8}

theorem read_eq_ok_iff :
    files.read path = .ok content ↔
      ∃ location, files.locate path = .ok location ∧
        files.at? location = some (.file content) := by
  unfold read find
  cases located : files.locate path with
  | error problem => simp [bind, Except.bind]
  | ok location =>
      cases held : files.at? location with
      | none => simp [bind, Except.bind, held, throw, throwThe, MonadExceptOf.throw]
      | some entry =>
          cases entry <;>
            simp [bind, Except.bind, held, pure, Except.pure, throw, throwThe, MonadExceptOf.throw]

theorem is_file_iff : files.isFile path = .ok true ↔ ∃ content, files.read path = .ok content := by
  unfold isFile read
  cases found : files.find path with
  | error problem => cases problem <;> simp [bind, Except.bind]
  | ok entry =>
      cases entry <;>
        simp [bind, Except.bind, pure, Except.pure, throw, throwThe, MonadExceptOf.throw]

theorem create_eq_ok_iff {after : Files} :
    files.create path = .ok after ↔
      ∃ location, files.locate path = .ok location ∧ files.at? location ≠ some .directory ∧
        after = files.put location (.file []) := by
  unfold create
  cases located : files.locate path with
  | error problem => simp [bind, Except.bind]
  | ok location =>
      cases held : files.at? location with
      | none =>
          simp [bind, Except.bind, held, pure, Except.pure, eq_comm]
      | some entry =>
          cases entry <;>
            simp [bind, Except.bind, held, pure, Except.pure, throw, throwThe,
              MonadExceptOf.throw, eq_comm]

variable {places : Location → Prop} {kind : List UInt8 → Prop} {before after : Files}

theorem Spread.read_before (spread : Spread places kind before after)
    (readable : after.read path = .ok content) (other : ¬kind content) :
    before.read path = .ok content := by
  obtain ⟨location, located, held⟩ := read_eq_ok_iff.mp readable
  refine read_eq_ok_iff.mpr ⟨location, spread.locate_iff.mp located, ?_⟩
  rcases spread location with same | ⟨_, _, content', fits, changed⟩
  · rw [← same]
    exact held
  · rw [held] at changed
    cases changed
    exact absurd fits other

theorem Spread.read_after (spread : Spread places kind before after) {location : Location}
    (located : before.locate path = .ok location) (apart : ¬places location)
    (readable : before.read path = .ok content) : after.read path = .ok content := by
  obtain ⟨location', located', held⟩ := read_eq_ok_iff.mp readable
  rw [located] at located'
  cases located'
  refine read_eq_ok_iff.mpr ⟨location, spread.locate_iff.mpr located, ?_⟩
  rcases spread location with same | ⟨place, _⟩
  · rw [same]
    exact held
  · exact absurd place apart

theorem Spread.create_after (spread : Spread places kind before after) {created : Files}
    (creates : before.create path = .ok created) :
    ∃ location, before.locate path = .ok location ∧
      after.create path = .ok (after.put location (.file [])) := by
  obtain ⟨location, located, plain, _⟩ := create_eq_ok_iff.mp creates
  refine ⟨location, located, create_eq_ok_iff.mpr ?_⟩
  refine ⟨location, spread.locate_iff.mpr located, ?_, rfl⟩
  exact fun directory => plain ((spread.directory_iff location).mp directory)

theorem spread_put {location : Location} (place : places location) (fits : kind content)
    (plain : files.at? location ≠ some .directory) :
    Spread places kind files (files.put location (.file content)) := by
  intro other
  by_cases same : other = location
  · subst same
    exact .inr ⟨place, plain, content, fits, at_put_same files plain⟩
  · exact .inl (at_put_other files _ same)

end Read

end Files

end ZigBindings
