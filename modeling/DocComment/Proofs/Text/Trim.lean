import DocComment.Text
import Mathlib.Data.List.DropRight
import Mathlib.Data.List.TakeWhile

/-!
# Trimmed texts and cuts

Trimming twice is trimming once (`Text.isTrimmed_trim`), so what was trimmed can be told from its
own characters: a text is trimmed at the end exactly when its last character is not white space
(`Text.trimEnd_eq_self_iff`), and likewise at the beginning.

A text cut at its line feeds has none in its pieces (`Text.notMem_of_mem_splitOn`).  When pieces are
joined again, the first one is the first line of the text (`Text.firstLine_join`).
-/

namespace DocComment.Text

open Unicode

variable {t s : Text} {c : Char}

/-! ## Trimming -/

/-- A text is trimmed when it has no white space at either end. -/
def IsTrimmed (t : Text) : Prop := t.trim = t

instance (t : Text) : Decidable t.IsTrimmed := inferInstanceAs (Decidable (t.trim = t))

theorem trimStart_eq_self_iff : t.trimStart = t ↔ ∀ c ∈ t.head?, isWhiteSpace c = false := by
  rw [trimStart, List.dropWhile_eq_self_iff]
  cases t with
  | nil => simp
  | cons c t => simp

theorem trimEnd_eq_self_iff : t.trimEnd = t ↔ ∀ c ∈ t.getLast?, isWhiteSpace c = false := by
  rw [trimEnd, List.reverse_eq_iff, ← trimStart, trimStart_eq_self_iff, List.head?_reverse]

@[simp] theorem trimStart_trimStart (t : Text) : t.trimStart.trimStart = t.trimStart :=
  List.dropWhile_idempotent ..

@[simp] theorem trimEnd_trimEnd (t : Text) : t.trimEnd.trimEnd = t.trimEnd := by
  rw [trimEnd, trimEnd, List.reverse_reverse, List.dropWhile_idempotent]

/-- What trimming takes from the end is blank. -/
theorem exists_trimEnd_append (t : Text) : ∃ rest, t = t.trimEnd ++ rest ∧ rest.isBlank = true := by
  refine ⟨(t.reverse.takeWhile isWhiteSpace).reverse, ?_, ?_⟩
  · rw [trimEnd, ← List.reverse_append, List.takeWhile_append_dropWhile, List.reverse_reverse]
  · rw [isBlank, List.all_reverse, List.all_takeWhile]

/-- Trimming the end leaves the beginning as it is. -/
theorem trimStart_trimEnd_trimStart (t : Text) :
    t.trimStart.trimEnd.trimStart = t.trimStart.trimEnd := by
  obtain ⟨rest, happend, -⟩ := exists_trimEnd_append t.trimStart
  rw [trimStart_eq_self_iff]
  intro c hc
  refine trimStart_eq_self_iff.1 (trimStart_trimStart t) c ?_
  rw [happend, List.head?_append, Option.mem_def.1 hc]
  rfl

theorem isTrimmed_trim (t : Text) : IsTrimmed t.trim := by
  rw [IsTrimmed, trim, trim, trimStart_trimEnd_trimStart, trimEnd_trimEnd]

theorem isTrimmed_nil : IsTrimmed [] := rfl

theorem isTrimmed_iff : t.IsTrimmed ↔ t.trimStart = t ∧ t.trimEnd = t := by
  rw [IsTrimmed, trim]
  constructor
  · intro h
    constructor
    · rw [← h, trimStart_trimEnd_trimStart]
    · rw [← h, trimEnd_trimEnd]
  · rintro ⟨hstart, hend⟩
    rw [hstart, hend]

theorem IsTrimmed.not_isBlank (h : t.IsTrimmed) (hne : t ≠ []) : ¬t.isBlank = true :=
  fun hblank ↦ hne (h.symm.trans (trim_eq_nil_iff.2 hblank))

theorem IsTrimmed.nonBlank?_eq (h : t.IsTrimmed) (hne : t ≠ []) : t.nonBlank? = some t := by
  rw [nonBlank?, if_neg (h.not_isBlank hne), h]

theorem nonBlank?_eq_none_iff : t.nonBlank? = none ↔ t.isBlank = true := by
  simp [nonBlank?]

theorem trim_ne_nil (h : t.isBlank = false) : t.trim ≠ [] := by
  rw [Ne, trim_eq_nil_iff, h]
  exact Bool.false_ne_true

theorem trimStart_append (h : t.trimStart = t) (hne : t ≠ []) (s : Text) :
    (t ++ s).trimStart = t ++ s := by
  rw [trimStart_eq_self_iff] at h ⊢
  rwa [List.head?_append_of_ne_nil t hne]

theorem trimEnd_append (h : s.trimEnd = s) (hne : s ≠ []) (t : Text) :
    (t ++ s).trimEnd = t ++ s := by
  rw [trimEnd_eq_self_iff] at h ⊢
  rwa [List.getLast?_append_of_ne_nil t hne]

/-- White space between two trimmed texts is not at an end. -/
theorem IsTrimmed.append (ht : t.IsTrimmed) (hs : s.IsTrimmed) (htne : t ≠ []) (hsne : s ≠ [])
    (between : Text) : IsTrimmed (t ++ (between ++ s)) := by
  refine isTrimmed_iff.2 ⟨trimStart_append (isTrimmed_iff.1 ht).1 htne _, ?_⟩
  rw [← List.append_assoc]
  exact trimEnd_append (isTrimmed_iff.1 hs).2 hsne _

theorem trimStart_subset (t : Text) : t.trimStart ⊆ t := (List.dropWhile_suffix _).subset

theorem trimEnd_subset (t : Text) : t.trimEnd ⊆ t := by
  obtain ⟨rest, happend, -⟩ := exists_trimEnd_append t
  intro c hc
  rw [happend]
  exact List.mem_append_left rest hc

theorem trim_subset (t : Text) : t.trim ⊆ t :=
  List.Subset.trans (trimEnd_subset t.trimStart) (trimStart_subset t)

theorem isBlank_trimEnd (t : Text) : t.trimEnd.isBlank = t.isBlank := by
  obtain ⟨rest, happend, hblank⟩ := exists_trimEnd_append t
  conv_rhs => rw [happend]
  rw [isBlank, isBlank, List.all_append, ← isBlank, ← isBlank, hblank, Bool.and_true]

/-! ## Blanks at the ends of a text -/

theorem trimStart_append_of_isBlank {w : Text} (hw : w.isBlank = true) (t : Text) :
    (w ++ t).trimStart = t.trimStart :=
  List.dropWhile_append_of_pos (List.all_eq_true.1 hw)

theorem trim_append_of_isBlank {w : Text} (hw : w.isBlank = true) (t : Text) :
    (w ++ t).trim = t.trim := by
  rw [trim, trimStart_append_of_isBlank hw, trim]

theorem isBlank_append_of_isBlank {w : Text} (hw : w.isBlank = true) (t : Text) :
    (w ++ t).isBlank = t.isBlank := by
  rw [isBlank, List.all_append, ← isBlank, hw, Bool.true_and, isBlank]

theorem isBlank_append_blanks {w : Text} (hw : w.isBlank = true) (t : Text) :
    (t ++ w).isBlank = t.isBlank := by
  rw [isBlank, List.all_append, ← isBlank, ← isBlank, hw, Bool.and_true]

theorem trimEnd_append_blanks {w : Text} (hw : w.isBlank = true) (t : Text) :
    (t ++ w).trimEnd = t.trimEnd := by
  rw [isBlank, ← List.all_reverse, List.all_eq_true] at hw
  rw [trimEnd, List.reverse_append, List.dropWhile_append_of_pos hw, trimEnd]

theorem trim_append_blanks {w : Text} (hw : w.isBlank = true) (t : Text) :
    (t ++ w).trim = t.trim := by
  rw [trim, trimStart, List.dropWhile_append, ← trimStart, ← trimStart]
  split
  case isTrue h =>
    rw [trimStart_eq_nil_iff.2 hw, trim, List.isEmpty_iff.1 h]
  case isFalse => rw [trimEnd_append_blanks hw, trim]

theorem nonBlank?_append_blanks {w : Text} (hw : w.isBlank = true) (t : Text) :
    (t ++ w).nonBlank? = t.nonBlank? := by
  rw [nonBlank?, isBlank_append_blanks hw, trim_append_blanks hw, nonBlank?]

/-- A text that is not blank is trimmed, and something is left of it. -/
theorem of_nonBlank? (h : t.nonBlank? = some s) : s ≠ [] ∧ IsTrimmed s ∧ s ⊆ t := by
  rw [nonBlank?] at h
  split at h
  case isTrue => cases h
  case isFalse hblank =>
    cases h
    exact ⟨fun hnil ↦ hblank (trim_eq_nil_iff.1 hnil), isTrimmed_trim t, trim_subset t⟩

/-- A trimmed text does not go on with blanks. -/
theorem isBlank_of_trim_append {start rest : Text} (h : t.trim = start ++ rest) (hne : rest ≠ []) :
    rest.isBlank = false := by
  have hlast := trimEnd_eq_self_iff.1 (trimEnd_trimEnd t.trimStart)
  rw [← trim, h, List.getLast?_append_of_ne_nil start hne] at hlast
  rw [isBlank, List.all_eq_false]
  refine ⟨rest.getLast hne, List.getLast_mem hne, ?_⟩
  rw [hlast _ (List.getLast?_eq_getLast_of_ne_nil hne)]
  exact Bool.false_ne_true

/-! ## Cuts -/

/-- What the first cut of a text leaves on its two sides. -/
theorem splitFirst?_eq_some {p : Char → Bool} {before after : Text}
    (h : t.splitFirst? p = some (before, after)) :
    (∀ c ∈ before, p c = false) ∧ ∃ c, p c = true ∧ t = before ++ c :: after := by
  induction t generalizing before with
  | nil => cases h
  | cons d rest ih =>
    rw [splitFirst?] at h
    split at h
    case isTrue hd =>
      cases h
      exact ⟨nofun, d, hd, rfl⟩
    case isFalse hd =>
      obtain ⟨⟨b, a⟩, hcut, heq⟩ := Option.map_eq_some_iff.1 h
      cases heq
      obtain ⟨hbefore, c, hc, happend⟩ := ih hcut
      refine ⟨?_, c, hc, congrArg (d :: ·) happend⟩
      intro x hx
      rcases List.mem_cons.1 hx with rfl | hx
      · exact Bool.eq_false_iff.2 hd
      · exact hbefore x hx

/-- A text is cut at the first character that satisfies `p`, which is here known. -/
theorem splitFirst?_append {p : Char → Bool} {before : Text} (hbefore : ∀ d ∈ before, p d = false)
    (hc : p c = true) (after : Text) :
    splitFirst? p (before ++ c :: after) = some (before, after) := by
  induction before with
  | nil => exact if_pos hc
  | cons d rest ih =>
    obtain ⟨hd, hrest⟩ := List.forall_mem_cons.1 hbefore
    rw [List.cons_append, splitFirst?, if_neg (Bool.eq_false_iff.1 hd), ih hrest, Option.map_some]

/-- Behind the cut is everything that comes after any character that satisfies `p`. -/
theorem exists_splitFirst?_eq_some {p : Char → Bool} (hc : p c = true) (before after : Text) :
    ∃ start rest, splitFirst? p (before ++ c :: after) = some (start, rest) ∧ after <:+ rest := by
  induction before with
  | nil => exact ⟨[], after, if_pos hc, List.suffix_rfl⟩
  | cons d before ih =>
    rw [List.cons_append, splitFirst?]
    split
    case isTrue =>
      exact ⟨[], _, rfl, (List.suffix_cons c after).trans (List.suffix_append before _)⟩
    case isFalse =>
      obtain ⟨start, rest, hcut, hsuffix⟩ := ih
      exact ⟨d :: start, rest, by rw [hcut, Option.map_some], hsuffix⟩

theorem splitFirst?_subset {p : Char → Bool} {before after : Text}
    (h : t.splitFirst? p = some (before, after)) : before ⊆ t ∧ after ⊆ t := by
  obtain ⟨-, c, -, rfl⟩ := splitFirst?_eq_some h
  exact ⟨List.subset_append_left before (c :: after),
    List.Subset.trans (List.subset_cons_self c after)
      (List.subset_append_right before (c :: after))⟩

theorem splitFirst?_eq_none {p : Char → Bool} (h : t.splitFirst? p = none) :
    ∀ c ∈ t, p c = false := by
  induction t with
  | nil => exact nofun
  | cons d rest ih =>
    rw [splitFirst?] at h
    split at h
    case isTrue => cases h
    case isFalse hd =>
      intro c hc
      rcases List.mem_cons.1 hc with rfl | hc
      · exact Bool.eq_false_iff.2 hd
      · exact ih (Option.map_eq_none_iff.1 h) c hc

/-- A text is cut exactly when there is a character to cut it at. -/
theorem isSome_splitFirst? (p : Char → Bool) (t : Text) :
    (t.splitFirst? p).isSome = t.any p := by
  induction t with
  | nil => rfl
  | cons c rest ih =>
    rw [splitFirst?, List.any_cons, ← ih]
    cases p c with
    | true => rfl
    | false => exact Option.isSome_map

/-- A beginning is taken off in two steps. -/
theorem after?_append (t start more : Text) :
    t.after? (start ++ more) = (t.after? start).bind (after? · more) := by
  fun_induction after? t start with
  | case1 t => rfl
  | case2 => rfl
  | case3 t b start ih =>
    rw [List.cons_append, after?, if_pos rfl, ih]
  | case4 a t b start hne =>
    rw [List.cons_append, after?, if_neg hne]
    rfl

/-! ## Pieces -/

/-- No piece of a text has the character that it was cut at. -/
theorem notMem_of_mem_splitOn {piece : Text} (h : piece ∈ t.splitOn c) : c ∉ piece := by
  induction t generalizing piece with
  | nil =>
    rw [List.splitOn_nil, List.mem_singleton] at h
    rw [h]
    exact List.not_mem_nil
  | cons d rest ih =>
    rw [List.splitOn_cons_eq_if_modifyHead] at h
    split at h
    case isTrue =>
      rcases List.mem_cons.1 h with rfl | h
      · exact List.not_mem_nil
      · exact ih h
    case isFalse hd =>
      cases hrest : List.splitOn c rest with
      | nil => exact absurd hrest (List.splitOn_ne_nil c rest)
      | cons first more =>
        rw [hrest, List.modifyHead_cons] at h
        rcases List.mem_cons.1 h with rfl | h
        · intro hmem
          rcases List.mem_cons.1 hmem with rfl | hmem
          · exact hd (beq_self_eq_true c)
          · exact ih (hrest ▸ List.mem_cons_self) hmem
        · exact ih (hrest ▸ List.mem_cons_of_mem first h)

/-- Joined pieces have the characters of the pieces and of the separator. -/
theorem mem_join {separator : Text} {pieces : List Text} (h : c ∈ join separator pieces) :
    c ∈ separator ∨ ∃ piece ∈ pieces, c ∈ piece := by
  induction pieces with
  | nil => cases h
  | cons piece pieces ih =>
    rcases eq_or_ne pieces [] with rfl | hne
    · rw [join, List.intercalate_singleton] at h
      exact .inr ⟨piece, List.mem_cons_self, h⟩
    rw [join, List.intercalate_cons_of_ne_nil hne, List.mem_append, List.mem_append] at h
    rcases h with (h | h) | h
    · exact .inr ⟨piece, List.mem_cons_self, h⟩
    · exact .inl h
    · rcases ih h with hseparator | ⟨other, hother, hc⟩
      · exact .inl hseparator
      · exact .inr ⟨other, List.mem_cons_of_mem piece hother, hc⟩

/-- What comes before the first line feed. -/
def firstLine (t : Text) : Text := t.takeWhile (· ≠ '\n')

/-- The first of some joined lines. -/
theorem firstLine_join {line : Text} (h : '\n' ∉ line) (more : List Text) :
    firstLine (join ['\n'] (line :: more)) = line := by
  have hline : ∀ c ∈ line, decide (c ≠ '\n') = true :=
    fun c hc ↦ decide_eq_true fun heq ↦ h (heq ▸ hc)
  cases more with
  | nil =>
    rw [join, List.intercalate_singleton, firstLine]
    exact List.takeWhile_eq_self_iff.2 hline
  | cons next more =>
    rw [join, List.intercalate_cons_cons, firstLine, List.append_assoc,
      List.takeWhile_append_of_pos hline]
    exact List.append_nil line

end DocComment.Text
