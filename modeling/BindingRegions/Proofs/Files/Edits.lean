import BindingRegions.Files.FileSystem
import BindingRegions.Proofs.Failure
import Mathlib.Tactic.Common

/-! What writing over files leaves as it was. A program that only writes to files that
it has read edits texts of writable files: no directory appears or vanishes, so every
path leads where it led before (`Edits.resolve_eq`), and what is at other places reads
the same (`Edits.read_eq`). -/

namespace BindingRegions.FileSystem

/-- The second file system differs from the first at most in the texts of writable files
at some of the places. -/
structure Edits (a b : FileSystem) (places : Place → Prop) : Prop where
  working : b.working = a.working
  entry : ∀ place, b.entry? place = a.entry? place ∨
    places place ∧ (∃ old, a.entry? place = some (.file old true)) ∧
      ∃ new, b.entry? place = some (.file (.text new) true)

/-- The places that a path leads to: at most one. -/
def At (files : FileSystem) (path : FilePath) (place : Place) : Prop :=
  files.resolve path = .ok place

def Meet (files : FileSystem) (p q : FilePath) : Prop :=
  ∃ place, files.At p place ∧ files.At q place

/-- Whatever text can be read at the path, any other can be written there. -/
def Overwritable (files : FileSystem) (path : FilePath) : Prop :=
  ∀ old new, files.read path = .ok old → ∃ after, files.write path new = .ok after

instance (files : FileSystem) (path : FilePath) (place : Place) :
    Decidable (files.At path place) :=
  inferInstanceAs (Decidable (files.resolve path = .ok place))

instance (files : FileSystem) (p q : FilePath) : Decidable (files.Meet p q) :=
  match hp : files.resolve p with
  | .error _ => isFalse fun ⟨_, h, _⟩ => by rw [At, hp] at h; cases h
  | .ok place => decidable_of_iff (files.resolve q = .ok place)
      ⟨fun hq => ⟨place, hp, hq⟩, fun ⟨_, h, hq⟩ => Except.ok.inj (hp.symm.trans h) ▸ hq⟩

variable {a b c files after : FileSystem} {places : Place → Prop} {path : FilePath}
  {text old : String}

theorem At.unique {p q : Place} (hp : files.At path p) (hq : files.At path q) : p = q :=
  Except.ok.inj (hp.symm.trans hq)

theorem Meet.symm {p q : FilePath} (h : files.Meet p q) : files.Meet q p := by
  obtain ⟨place, hp, hq⟩ := h
  exact ⟨place, hq, hp⟩

/-! ### Setting entries -/

@[simp] theorem entry_set (files : FileSystem) (place : Place) (entry : Option Entry) :
    FileSystem.entry? (files.set place entry) place = entry := by
  simp [set]

theorem entry_set_of_ne {place other : Place} (h : other ≠ place) (files : FileSystem)
    (entry : Option Entry) :
    FileSystem.entry? (files.set place entry) other = files.entry? other := by
  simp [set, h]

theorem set_self {place : Place} {entry : Option Entry} (h : files.entry? place = entry) :
    files.set place entry = files := by
  have hentry : (fun other => if other = place then entry else files.entry? other) =
      files.entry? := by
    funext other
    split_ifs with ho
    · rw [ho, h]
    · rfl
  rw [set, hentry]

theorem set_set (files : FileSystem) (place : Place) (first second : Option Entry) :
    (files.set place first).set place second = files.set place second := by
  simp only [set, mk.injEq, and_true]
  funext other
  split_ifs <;> rfl

theorem set_comm {p q : Place} (h : p ≠ q) (files : FileSystem) (x y : Option Entry) :
    (files.set p x).set q y = (files.set q y).set p x := by
  simp only [set, mk.injEq, and_true]
  funext other
  split_ifs with hq hp
  · exact absurd (hp.symm.trans hq) h
  · rfl
  · rfl
  · rfl

/-! ### Reading and writing -/

theorem read_eq_ok_iff : files.read path = .ok text ↔ path.endsWithSlash = false ∧
    ∃ place writable, files.At path place ∧
      files.entry? place = some (.file (.text text) writable) := by
  unfold read find At
  cases hplace : files.resolve path with
  | error fault => simp
  | ok place =>
    cases hentry : files.entry? place with
    | none => simp [hentry]
    | some entry =>
      cases entry with
      | directory => simp [hentry]
      | file content writable =>
        cases hs : path.endsWithSlash with
        | true => simp [hentry]
        | false => cases content <;> cases writable <;> simp [hentry]

theorem write_eq_ok_iff : files.write path text = .ok after ↔ path.endsWithSlash = false ∧
    ∃ place, files.At path place ∧
      (files.entry? place = none ∨ ∃ content, files.entry? place = some (.file content true)) ∧
      after = files.set place (some (.file (.text text) true)) := by
  unfold write At
  cases hplace : files.resolve path with
  | error fault => simp
  | ok place =>
    cases hs : path.endsWithSlash with
    | true => simp
    | false =>
      cases hentry : files.entry? place with
      | none => simp [hentry, eq_comm]
      | some entry =>
        cases entry with
        | directory => simp [hentry]
        | file content writable => cases writable <;> simp [hentry, eq_comm]

theorem overwritable_of_entry {place : Place} {content : Content} (hat : files.At path place)
    (h : files.entry? place = some (.file content true)) : files.Overwritable path := by
  intro old new hread
  have hslash := (read_eq_ok_iff.1 hread).1
  exact ⟨_, write_eq_ok_iff.2 ⟨hslash, place, hat, .inr ⟨content, h⟩, rfl⟩⟩

/-! ### Edits -/

namespace Edits

theorem refl (files : FileSystem) (places : Place → Prop) : Edits files files places :=
  ⟨rfl, fun _ => .inl rfl⟩

theorem trans (hab : Edits a b places) (hbc : Edits b c places) : Edits a c places := by
  refine ⟨hbc.working.trans hab.working, fun place => ?_⟩
  rcases hbc.entry place with hc | ⟨hp, ⟨old, hb⟩, hc⟩
  · rw [hc]
    exact hab.entry place
  · right
    refine ⟨hp, ?_, hc⟩
    rcases hab.entry place with ha | ⟨-, ha, -⟩
    · exact ⟨old, ha ▸ hb⟩
    · exact ha

theorem mono {more : Place → Prop} (h : Edits a b places)
    (hle : ∀ place, places place → more place) : Edits a b more := by
  refine ⟨h.working, fun place => ?_⟩
  rcases h.entry place with he | ⟨hp, he⟩
  · exact .inl he
  · exact .inr ⟨hle place hp, he⟩

theorem walk_eq (h : Edits a b places) (place : Place) (steps : List FilePath.Step) :
    b.walk place steps = a.walk place steps := by
  induction steps generalizing place with
  | nil => rfl
  | cons step steps ih =>
    rcases h.entry place with he | ⟨-, ⟨old, ha⟩, new, hb⟩
    · unfold walk
      rw [he]
      cases a.entry? place with
      | none => rfl
      | some entry => cases entry <;> cases step <;> simp [ih]
    · simp only [walk, ha, hb]

theorem resolve_eq (h : Edits a b places) (path : FilePath) : b.resolve path = a.resolve path := by
  simp only [resolve, h.working, h.walk_eq]

theorem at_eq (h : Edits a b places) (path : FilePath) : b.At path = a.At path := by
  funext place
  rw [At, At, h.resolve_eq]

theorem meet_iff (h : Edits a b places) (p q : FilePath) : b.Meet p q ↔ a.Meet p q := by
  simp only [Meet, h.at_eq]

/-- A path that leads to none of the places reads as before. -/
theorem read_eq (h : Edits a b places) (hoff : ∀ place, a.At path place → ¬ places place) :
    b.read path = a.read path := by
  unfold read find
  rw [h.resolve_eq]
  cases hplace : a.resolve path with
  | error fault => rfl
  | ok place =>
    have he : b.entry? place = a.entry? place := by
      rcases h.entry place with he | ⟨hp, -⟩
      · exact he
      · exact absurd hp (hoff place hplace)
    simp only [ok_bind, he]

theorem overwritable (h : Edits a b places) (ho : a.Overwritable path) : b.Overwritable path := by
  intro old new hread
  obtain ⟨hslash, place, writable, hat, hentry⟩ := read_eq_ok_iff.1 hread
  rw [h.at_eq] at hat
  have hfile : ∃ content, b.entry? place = some (.file content true) := by
    rcases h.entry place with he | ⟨-, -, text, hb⟩
    · rw [he] at hentry
      obtain ⟨_, hwrite⟩ := ho old new (read_eq_ok_iff.2 ⟨hslash, place, writable, hat, hentry⟩)
      obtain ⟨-, other, hother, hcan, -⟩ := write_eq_ok_iff.1 hwrite
      rw [he, hat.unique hother]
      rw [hat.unique hother] at hentry
      simpa [hentry] using hcan
    · exact ⟨_, hb⟩
  exact ⟨_, write_eq_ok_iff.2 ⟨hslash, place, (h.at_eq path).symm ▸ hat, .inr hfile, rfl⟩⟩

end Edits

theorem edits_of_write (hread : files.read path = .ok old) (h : files.write path text = .ok after) :
    Edits files after (files.At path) := by
  obtain ⟨-, place, hat, -, rfl⟩ := write_eq_ok_iff.1 h
  obtain ⟨-, other, writable, hother, hentry⟩ := read_eq_ok_iff.1 hread
  obtain rfl := hat.unique hother
  obtain ⟨-, place', hat', hcan, -⟩ := write_eq_ok_iff.1 h
  obtain rfl := hat.unique hat'
  refine ⟨rfl, fun at_ => ?_⟩
  by_cases hp : at_ = place
  · subst hp
    right
    exact ⟨hat, by simpa [hentry] using hcan, text, by simp [set]⟩
  · left
    simp [set, hp]

def stepFrom (place : Place) : FilePath.Step → Place
  | .here => place
  | .parent => place.tail
  | .name name => name :: place

theorem walk_cons_eq_ok_iff {start place : Place} {step : FilePath.Step}
    {steps : List FilePath.Step} :
    files.walk start (step :: steps) = .ok place ↔ files.entry? start = some .directory ∧
      (∀ name, step = .name name → name.utf8ByteSize ≤ 255) ∧
        files.walk (stepFrom start step) steps = .ok place := by
  cases hstart : files.entry? start with
  | none => simp [walk, hstart]
  | some entry =>
    cases entry with
    | file content writable => simp [walk, hstart]
    | directory =>
      cases step with
      | here => simp [walk, hstart, stepFrom]
      | parent => simp [walk, hstart, stepFrom]
      | name name =>
        by_cases hlength : name.utf8ByteSize ≤ 255
        · simp [walk, hstart, stepFrom, hlength, Nat.not_lt.2 hlength]
        · simp [walk, hstart, hlength, Nat.not_le.1 hlength]

theorem at_iff {place : Place} :
    files.At path place ↔ ('\x00' ∉ path.text.toList ∧ path.text ≠ "" ∧
      ¬ 4096 ≤ path.text.utf8ByteSize) ∧
        files.walk (if path.isAbsolute then [] else files.working) path.steps = .ok place := by
  unfold At resolve
  by_cases hnul : '\x00' ∈ path.text.toList
  · simp [hnul]
  by_cases hempty : path.text = ""
  · simp [hempty]
  by_cases hlength : 4096 ≤ path.text.utf8ByteSize <;> simp [hnul, hempty, hlength]

/-- The steps to a place that is no directory do not pass by it. -/
theorem walk_set {start place : Place} {steps : List FilePath.Step}
    (h : files.walk start steps = .ok place) (hplace : files.entry? place ≠ some .directory)
    (entry : Option Entry) : (files.set place entry).walk start steps = .ok place := by
  induction steps generalizing start with
  | nil => exact h
  | cons step steps ih =>
    obtain ⟨hstart, hlength, hrest⟩ := walk_cons_eq_ok_iff.1 h
    have hne : start ≠ place := fun he => hplace (he ▸ hstart)
    exact walk_cons_eq_ok_iff.2 ⟨by rw [entry_set_of_ne hne, hstart], hlength, ih hrest⟩

theorem at_set {place : Place} (h : files.At path place)
    (hplace : files.entry? place ≠ some .directory) (entry : Option Entry) :
    (files.set place entry).At path place := by
  obtain ⟨hpath, hwalk⟩ := at_iff.1 h
  exact at_iff.2 ⟨hpath, walk_set hwalk hplace entry⟩

/-- What was written is read again, also where there was no file before. -/
theorem read_of_write (h : files.write path text = .ok after) : after.read path = .ok text := by
  obtain ⟨hslash, place, hat, hcan, rfl⟩ := write_eq_ok_iff.1 h
  have hplace : files.entry? place ≠ some .directory := by
    rcases hcan with hnone | ⟨content, hfile⟩
    · simp [hnone]
    · simp [hfile]
  exact read_eq_ok_iff.2 ⟨hslash, place, true, at_set hat hplace _, entry_set _ _ _⟩

theorem endsWithSlash_of_read (h : files.read path = .ok text) : path.endsWithSlash = false :=
  (read_eq_ok_iff.1 h).1

/-- Where two paths meet, they read the same, but for a final slash. -/
theorem read_of_meet {p q : FilePath} (h : files.Meet p q) (hp : p.endsWithSlash = false)
    (hq : files.read q = .ok text) : files.read p = .ok text := by
  obtain ⟨place, hatp, hatq⟩ := h
  obtain ⟨-, other, writable, hother, hentry⟩ := read_eq_ok_iff.1 hq
  obtain rfl := hatq.unique hother
  exact read_eq_ok_iff.2 ⟨hp, place, writable, hatp, hentry⟩

end BindingRegions.FileSystem
