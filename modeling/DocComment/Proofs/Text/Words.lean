import DocComment.Proofs.Text.Trim

/-!
# Words of a text

White space is no word and ends the word before it: the words on both sides of it are the words of
the text (`Text.words_append_cons`).  So white space at the ends of a text makes no difference to
its words (`Text.words_trim`), and the first word is what a trimmed text begins with, up to the next
white space (`Text.head?_words`).
-/

namespace DocComment.Text

open Unicode

variable {t w : Text} {c : Char}

/-! ## White space between words -/

/-- A text is cut at its white space, and no word goes across the cut. -/
theorem words_append_cons (hc : isWhiteSpace c = true) (t s : Text) :
    (t ++ c :: s).words = t.words ++ s.words := by
  rw [words, List.splitOnP_append_cons t s hc, List.filter_append, words, words]

theorem words_append_of_isBlank (hw : w.isBlank = true) (t : Text) : (w ++ t).words = t.words := by
  induction w with
  | nil => rfl
  | cons c w ih =>
    rw [isBlank, List.all_cons, Bool.and_eq_true] at hw
    have hcut : words (c :: (w ++ t)) = words (w ++ t) := words_append_cons hw.1 [] (w ++ t)
    rw [List.cons_append, hcut]
    exact ih hw.2

theorem words_of_isBlank (hw : w.isBlank = true) : w.words = [] := by
  rw [← List.append_nil w, words_append_of_isBlank hw]
  rfl

theorem words_append_blanks (hw : w.isBlank = true) (t : Text) : (t ++ w).words = t.words := by
  cases w with
  | nil => rw [List.append_nil]
  | cons c w =>
    rw [isBlank, List.all_cons, Bool.and_eq_true] at hw
    rw [words_append_cons hw.1, words_of_isBlank hw.2, List.append_nil]

theorem words_trimStart (t : Text) : t.trimStart.words = t.words := by
  have hcut : t = t.takeWhile isWhiteSpace ++ t.trimStart :=
    List.takeWhile_append_dropWhile.symm
  conv_rhs => rw [hcut]
  exact (words_append_of_isBlank List.all_takeWhile t.trimStart).symm

/-- Trimming takes no word away. -/
theorem words_trim (t : Text) : t.trim.words = t.words := by
  obtain ⟨rest, happend, hblank⟩ := exists_trimEnd_append t.trimStart
  rw [← words_trimStart t, happend, words_append_blanks hblank, trim]

theorem elim_words_nonBlank? (t : Text) : t.nonBlank?.elim [] words = t.words := by
  rw [nonBlank?]
  split
  case isTrue hblank => exact (words_of_isBlank hblank).symm
  case isFalse => exact words_trim t

/-! ## The first word -/

/-- The beginning of a text up to its first white space. -/
def firstWord (t : Text) : Text := t.takeWhile (!isWhiteSpace ·)

/-- The first piece of a text goes up to its first white space. -/
theorem exists_splitOnP_eq (t : Text) : ∃ more, t.splitOnP isWhiteSpace = t.firstWord :: more := by
  have hword : ∀ c ∈ t.firstWord, isWhiteSpace c = false := by
    intro c hc
    simpa using List.mem_takeWhile_imp hc
  have hcut : t = t.firstWord ++ t.dropWhile (!isWhiteSpace ·) :=
    List.takeWhile_append_dropWhile.symm
  have hhead := List.head?_dropWhile_not (!isWhiteSpace ·) t
  cases hrest : t.dropWhile (!isWhiteSpace ·) with
  | nil =>
    rw [hrest, List.append_nil] at hcut
    rw [← hcut] at hword ⊢
    exact ⟨[], List.splitOnP_eq_singleton hword⟩
  | cons c rest =>
    rw [hrest] at hcut hhead
    have hspace : isWhiteSpace c = true := by simpa using hhead
    refine ⟨rest.splitOnP isWhiteSpace, ?_⟩
    conv_lhs => rw [hcut]
    exact List.splitOnP_append_cons_of_forall_mem hword c hspace rest

theorem firstWord_trimStart_ne_nil (h : t.isBlank = false) : t.trimStart.firstWord ≠ [] := by
  cases hstart : t.trimStart with
  | nil => rw [trimStart_eq_nil_iff, h] at hstart; cases hstart
  | cons c rest =>
    have hc := trimStart_eq_self_iff.1 (trimStart_trimStart t) c (by rw [hstart]; rfl)
    rw [firstWord, List.takeWhile_cons_of_pos (by simp [hc])]
    exact List.cons_ne_nil _ _

/-- The first word of a text that is not blank. -/
theorem head?_words (h : t.isBlank = false) : t.words.head? = some t.trimStart.firstWord := by
  obtain ⟨more, hmore⟩ := exists_splitOnP_eq t.trimStart
  rw [← words_trimStart, words, hmore, List.filter_cons_of_pos]
  · rfl
  · simpa using firstWord_trimStart_ne_nil h

/-- A text without words is blank. -/
theorem words_eq_nil_iff : t.words = [] ↔ t.isBlank = true := by
  constructor
  · intro hwords
    by_contra hblank
    have hhead := head?_words (Bool.of_not_eq_true hblank)
    rw [hwords] at hhead
    cases hhead
  · exact words_of_isBlank

/-- The first word is not touched by trimming the end. -/
theorem firstWord_trimStart_prefix (t : Text) : t.trimStart.firstWord <+: t.trim := by
  obtain ⟨rest, happend, hblank⟩ := exists_trimEnd_append t.trimStart
  have hrest : rest.takeWhile (!isWhiteSpace ·) = [] := by
    cases rest with
    | nil => rfl
    | cons c rest =>
      rw [isBlank, List.all_cons, Bool.and_eq_true] at hblank
      rw [List.takeWhile_cons_of_neg (by simp [hblank.1])]
  rw [happend, firstWord, List.takeWhile_append, hrest, List.append_nil, trim]
  split
  case isTrue => exact List.prefix_rfl
  case isFalse => exact List.takeWhile_prefix _

end DocComment.Text
