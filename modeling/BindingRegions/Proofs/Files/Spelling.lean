import BindingRegions.Proofs.Files.Edits

/-! Spellings of one path. A dot on the way only asks that there be a directory, so two
spellings that both lead somewhere lead to one place (`At.unique_of_same`), and what can
be read and written there is the same. A spelling may still lead nowhere where another
does: with a slash or a dot behind a file, or at excessive length. -/

namespace BindingRegions

namespace FilePath

/-- A dot at the front is the only one among a path's parts, and so the parts without
dots are the steps without dots. -/
theorem filter_parts (path : FilePath) :
    path.parts.1 = path.isAbsolute ∧
      path.parts.2.filter (· ≠ .here) = path.steps.filter (· ≠ .here) := by
  unfold parts
  split
  · rename_i rest habs hsteps
    simp [habs, hsteps]
  · simp

theorem isAbsolute_eq_of_same {p q : FilePath} (h : p.same q = true) :
    p.isAbsolute = q.isAbsolute := by
  rw [same, beq_iff_eq] at h
  rw [← p.filter_parts.1, ← q.filter_parts.1, h]

theorem filter_steps_eq_of_same {p q : FilePath} (h : p.same q = true) :
    p.steps.filter (· ≠ .here) = q.steps.filter (· ≠ .here) := by
  rw [same, beq_iff_eq] at h
  rw [← p.filter_parts.2, ← q.filter_parts.2, h]

end FilePath

namespace FileSystem

variable {files : FileSystem} {p q : FilePath} {text text' : String}

/-- Where the steps lead, they lead without their dots. -/
theorem walk_filter {place target : Place} {steps : List FilePath.Step}
    (h : files.walk place steps = .ok target) :
    files.walk place (steps.filter (· ≠ .here)) = .ok target := by
  induction steps generalizing place with
  | nil => exact h
  | cons step steps ih =>
    obtain ⟨hplace, hlength, hrest⟩ := walk_cons_eq_ok_iff.1 h
    by_cases hstep : step = .here
    · subst hstep
      rw [List.filter_cons_of_neg (by simp)]
      exact ih hrest
    · rw [List.filter_cons_of_pos (by simpa using hstep)]
      exact walk_cons_eq_ok_iff.2 ⟨hplace, hlength, ih hrest⟩

theorem At.unique_of_same {x y : Place} (h : p.same q = true) (hp : files.At p x)
    (hq : files.At q y) : x = y := by
  have hwalkp := walk_filter (at_iff.1 hp).2
  have hwalkq := walk_filter (at_iff.1 hq).2
  rw [FilePath.isAbsolute_eq_of_same h, FilePath.filter_steps_eq_of_same h, hwalkq] at hwalkp
  exact (Except.ok.inj hwalkp).symm

/-- Two spellings that can both be read meet. -/
theorem meet_of_same (h : p.same q = true) (hp : files.read p = .ok text)
    (hq : files.read q = .ok text') : files.Meet p q := by
  obtain ⟨-, x, -, hatp, -⟩ := read_eq_ok_iff.1 hp
  obtain ⟨-, y, -, hatq, -⟩ := read_eq_ok_iff.1 hq
  exact ⟨x, hatp, (hatp.unique_of_same h hatq) ▸ hatq⟩

/-- Where two paths meet, they write the same, but for a final slash. -/
theorem write_of_meet (h : files.Meet p q) (hp : p.endsWithSlash = false)
    (hq : q.endsWithSlash = false) (text : String) : files.write p text = files.write q text := by
  obtain ⟨place, hatp, hatq⟩ := h
  unfold At at hatp hatq
  simp only [write, hatp, hatq, hp, hq]

/-! ### Two paths of one file -/

/-- Both paths lead to one place, and neither asks for a directory there. -/
structure SameFile (files : FileSystem) (p q : FilePath) : Prop where
  meet : files.Meet p q
  left : p.endsWithSlash = false
  right : q.endsWithSlash = false

namespace SameFile

theorem symm (h : files.SameFile p q) : files.SameFile q p := ⟨h.meet.symm, h.right, h.left⟩

theorem read_eq (h : files.SameFile p q) : files.read q = files.read p := by
  obtain ⟨⟨place, hatp, hatq⟩, hp, hq⟩ := h
  unfold At at hatp hatq
  simp only [read, find, hatp, hatq, hp, hq]

theorem write_eq (h : files.SameFile p q) (text : String) :
    files.write q text = files.write p text :=
  write_of_meet h.meet.symm h.right h.left text

theorem edits {after : FileSystem} {places : Place → Prop} (h : files.SameFile p q)
    (he : files.Edits after places) : after.SameFile p q :=
  ⟨(he.meet_iff p q).2 h.meet, h.left, h.right⟩

/-- A spelling that can be read is another path of the file. -/
theorem of_same {other : FilePath} (h : files.SameFile p q) (hsame : other.same p = true)
    (hread : files.read other = .ok text) : files.SameFile other q := by
  obtain ⟨⟨place, hatp, hatq⟩, -, hq⟩ := h
  obtain ⟨hslash, place', -, hat, -⟩ := read_eq_ok_iff.1 hread
  obtain rfl := hat.unique_of_same hsame hatp
  exact ⟨⟨place', hat, hatq⟩, hslash, hq⟩

end SameFile

end FileSystem

end BindingRegions
