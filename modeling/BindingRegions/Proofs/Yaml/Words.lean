import BindingRegions.Proofs.Yaml.Charset
import Mathlib.Data.List.TakeWhile

/-! Texts cut into words. The words are parted by spaces or, where the text has them, by line
breaks; of two gaps no kind stands next to the other. Readers of scalars go from word to word, so
what they make of a text is shown by induction on its words. -/

namespace BindingRegions.Yaml

open ScalarText

/-- The characters of a word; the breaks are of the given class. -/
def IsWord (breaks : Char → Bool) (chars : List Char) : Prop :=
  ∀ c ∈ chars, c ≠ ' ' ∧ breaks c = false

/-- A text that starts with a word, if it is not empty. -/
def StartsWord (breaks : Char → Bool) (chars : List Char) : Prop :=
  ∀ c ∈ chars.head?, c ≠ ' ' ∧ breaks c = false

/-- A text as words and the gaps between them. It may start with a gap, behind an empty word. -/
inductive Words (breaks : Char → Bool) : List Char → Prop
  | word (word : List Char) (hword : IsWord breaks word) : Words breaks word
  | spaced (word : List Char) (k : Nat) (rest : List Char) (hword : IsWord breaks word)
      (hrest : StartsWord breaks rest) (tail : Words breaks rest) :
      Words breaks (word ++ (spaces (k + 1) ++ rest))
  | broken (word : List Char) (c : Char) (gap rest : List Char) (hword : IsWord breaks word)
      (hgap : ∀ d ∈ c :: gap, breaks d = true) (hrest : StartsWord breaks rest)
      (tail : Words breaks rest) : Words breaks (word ++ (c :: gap ++ rest))

variable {breaks p : Char → Bool} {c : Char} {chars : List Char}

theorem head?_dropWhile_eq_false : ∀ d ∈ (chars.dropWhile p).head?, p d = false := by
  intro d hd
  have := List.head?_dropWhile_not p chars
  rw [Option.mem_def.1 hd] at this
  simpa using this

/-- What follows a run of one class does not start with a character of that class, and, where the
two are never neighbours, with none of the other class either. -/
theorem head?_behind_run {q : Char → Bool} (hc : p c = true)
    (h : hasPair p q (c :: chars) = false) :
    ∀ d ∈ (chars.dropWhile p).head?, p d = false ∧ q d = false := by
  intro d hd
  refine ⟨head?_dropWhile_eq_false d hd, ?_⟩
  rw [← List.takeWhile_append_dropWhile (p := p) (l := chars), ← List.cons_append] at h
  obtain ⟨last, hlast⟩ : ∃ last, (c :: chars.takeWhile p).getLast? = some last :=
    ⟨_, List.getLast?_eq_some_getLast (by simp)⟩
  have hrun : ∀ d ∈ c :: chars.takeWhile p, p d = true :=
    List.forall_mem_cons.2 ⟨hc, fun _ => List.mem_takeWhile_imp⟩
  exact hasPair_join h hlast (hrun _ (List.mem_of_getLast? hlast)) d hd

/-- A text is words and gaps where no space is next to a break. -/
theorem words_of_hasPair (breaks : Char → Bool) (chars : List Char)
    (hspace : hasPair isSpace breaks chars = false) (hbreak : hasPair breaks isSpace chars = false) :
    Words breaks chars := by
  set inWord : Char → Bool := fun c => !isSpace c && !breaks c
  have hcut := List.takeWhile_append_dropWhile (p := inWord) (l := chars)
  have hword : IsWord breaks (chars.takeWhile inWord) := fun c hc => by
    simpa [inWord, isSpace] using List.mem_takeWhile_imp hc
  have hend : ∀ c ∈ (chars.dropWhile inWord).head?, inWord c = false := head?_dropWhile_eq_false
  rcases hrest : chars.dropWhile inWord with - | ⟨c, rest⟩
  · rw [← hcut, hrest, List.append_nil]
    exact .word _ hword
  have hlength : rest.length < chars.length := by
    rw [← hcut, hrest, List.length_append, List.length_cons]
    omega
  rw [hrest] at hcut hend
  rw [← hcut] at hspace hbreak ⊢
  replace hspace := hasPair_of_append hspace
  replace hbreak := hasPair_of_append hbreak
  have hclass : isSpace c = true ∨ breaks c = true := by
    rw [← Bool.or_eq_true, ← Bool.not_eq_false', Bool.not_or]
    exact hend c rfl
  -- The gap is the run of characters like its first one.
  obtain hc | hc := hclass
  · have hgap : c :: rest.takeWhile isSpace = spaces ((rest.takeWhile isSpace).length + 1) := by
      rw [spaces_succ, of_decide_eq_true hc]
      exact congrArg _ (List.eq_replicate_of_mem fun d hd => of_decide_eq_true
        (List.mem_takeWhile_imp (p := isSpace) hd))
    have hhead := head?_behind_run hc hspace
    rw [← List.takeWhile_append_dropWhile (p := isSpace) (l := rest), ← List.cons_append, hgap]
      at hspace hbreak ⊢
    exact .spaced _ _ _ hword (by simpa [StartsWord, isSpace] using hhead)
      (words_of_hasPair breaks _ (hasPair_of_append hspace) (hasPair_of_append hbreak))
  · have hhead := head?_behind_run hc hbreak
    rw [← List.takeWhile_append_dropWhile (p := breaks) (l := rest), ← List.cons_append]
      at hspace hbreak ⊢
    refine .broken _ _ _ _ hword ?_ ?_
      (words_of_hasPair breaks _ (hasPair_of_append hspace) (hasPair_of_append hbreak))
    · exact List.forall_mem_cons.2 ⟨hc, fun _ => List.mem_takeWhile_imp⟩
    · intro d hd
      simpa [isSpace, and_comm] using hhead d hd
termination_by chars.length
decreasing_by
  all_goals
    exact lt_of_le_of_lt (List.length_dropWhile_le _ _) hlength

end BindingRegions.Yaml
