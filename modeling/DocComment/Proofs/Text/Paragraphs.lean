import DocComment.Proofs.Text.Trim

/-!
# Texts line by line

The paragraphs of a text are what lies between its line feeds.  This file says what they are for
texts that are put together: of two texts with a line feed between them (`paragraphs_append_feed`),
of lines that each end with a line feed (`paragraphs_flatMap_feed_append`), of a text whose last
line goes on (`paragraphs_append`), and of a text whose line feeds have been replaced so that its
further lines get a margin (`replaceChar_feed`, `paragraphs_indented`).
-/

namespace DocComment.Text

variable {t s : Text}

/-! ## Line feeds -/

theorem paragraphs_ne_nil (t : Text) : t.paragraphs ≠ [] := List.splitOn_ne_nil '\n' t

theorem paragraphs_of_notMem (h : '\n' ∉ t) : t.paragraphs = [t] := List.splitOn_eq_singleton h

theorem paragraphs_append_feed (t s : Text) :
    (t ++ '\n' :: s).paragraphs = t.paragraphs ++ s.paragraphs :=
  List.splitOn_append_cons_self t s

theorem notMem_of_mem_paragraphs {line : Text} (h : line ∈ t.paragraphs) : '\n' ∉ line :=
  notMem_of_mem_splitOn h

theorem join_paragraphs (t : Text) : join ['\n'] t.paragraphs = t := List.intercalate_splitOn '\n'

/-- The lines of joined texts are those of the texts, if there are any. -/
theorem paragraphs_join {pieces : List Text} (h : pieces ≠ []) :
    (join ['\n'] pieces).paragraphs = pieces.flatMap paragraphs := by
  induction pieces with
  | nil => exact absurd rfl h
  | cons piece rest ih =>
    rcases eq_or_ne rest [] with rfl | hne
    · rw [join, List.intercalate_singleton, List.flatMap_singleton]
    · rw [join, List.intercalate_cons_of_ne_nil hne, List.append_assoc, List.singleton_append,
        paragraphs_append_feed, ← join, ih hne, List.flatMap_cons]

/-- Lines that are joined with another one between neighbours. -/
theorem paragraphs_join_between {between : Text} {lines : List Text} (hne : lines ≠ [])
    (hlines : ∀ line ∈ lines, '\n' ∉ line) (hbetween : '\n' ∉ between) :
    (join ('\n' :: between ++ ['\n']) lines).paragraphs = lines.intersperse between := by
  induction lines with
  | nil => exact absurd rfl hne
  | cons line rest ih =>
    obtain ⟨hline, hrest⟩ := List.forall_mem_cons.1 hlines
    cases rest with
    | nil =>
      rw [join, List.intercalate_singleton]
      exact paragraphs_of_notMem hline
    | cons next rest =>
      have happend : join ('\n' :: between ++ ['\n']) (line :: next :: rest) =
          line ++ '\n' :: (between ++ '\n' :: join ('\n' :: between ++ ['\n']) (next :: rest)) := by
        simp [join, List.intercalate_cons_cons]
      rw [happend, paragraphs_append_feed, paragraphs_append_feed, paragraphs_of_notMem hline,
        paragraphs_of_notMem hbetween, ih (List.cons_ne_nil next rest) hrest,
        List.intersperse_cons_cons]
      rfl

theorem join_append_feed {pieces : List Text} (h : pieces ≠ []) :
    join ['\n'] pieces ++ ['\n'] = pieces.flatMap (· ++ ['\n']) := by
  induction pieces with
  | nil => exact absurd rfl h
  | cons piece rest ih =>
    rcases eq_or_ne rest [] with rfl | hne
    · simp [join]
    · rw [join, List.intercalate_cons_of_ne_nil hne, List.append_assoc, List.flatMap_cons, ← ih hne]
      rfl

/-- The lines before the last ones end with line feeds. -/
theorem join_append {after : List Text} (before : List Text) (h : after ≠ []) :
    join ['\n'] (before ++ after) = before.flatMap (· ++ ['\n']) ++ join ['\n'] after := by
  have hfeed : join ['\n'] (before ++ after) ++ ['\n'] =
      before.flatMap (· ++ ['\n']) ++ join ['\n'] after ++ ['\n'] := by
    rw [join_append_feed (List.append_ne_nil_of_right_ne_nil before h), List.flatMap_append,
      List.append_assoc, join_append_feed h]
  exact List.append_cancel_right hfeed

theorem join_concat (init : List Text) (last : Text) :
    join ['\n'] (init ++ [last]) = init.flatMap (· ++ ['\n']) ++ last := by
  rw [join_append init (List.cons_ne_nil last []), join, List.intercalate_singleton]

/-- Of joined lines, each but the first comes behind a line feed. -/
theorem join_feed_cons (line : Text) (more : List Text) :
    join ['\n'] (line :: more) = line ++ more.flatMap ('\n' :: ·) := by
  induction more generalizing line with
  | nil =>
    rw [join, List.intercalate_singleton]
    exact (List.append_nil line).symm
  | cons next more ih =>
    rw [join, List.intercalate_cons_cons, ← join, ih, List.flatMap_cons, List.append_assoc]
    rfl

/-- A text that ends with a line feed is its lines, each with a line feed at its end. -/
theorem flatMap_paragraphs (t : Text) : t.paragraphs.flatMap (· ++ ['\n']) = t ++ ['\n'] := by
  rw [← join_append_feed (paragraphs_ne_nil t), join_paragraphs]

theorem isBlank_flatMap_feed (lines : List Text) :
    isBlank (lines.flatMap (· ++ ['\n'])) = lines.all isBlank := by
  rw [isBlank, List.all_flatMap]
  congr 1
  funext line
  rw [List.all_append]
  exact Bool.and_true _

theorem all_isBlank_paragraphs (t : Text) : t.paragraphs.all isBlank = t.isBlank := by
  rw [← isBlank_flatMap_feed, flatMap_paragraphs, isBlank, List.all_append]
  exact Bool.and_true _

/-- A text that is not blank has a first line that is not blank. -/
theorem exists_paragraphs_of_not_isBlank (h : t.isBlank = false) :
    ∃ blanks first rest, t.paragraphs = blanks ++ first :: rest ∧
      (∀ line ∈ blanks, line.isBlank = true) ∧ first.isBlank = false := by
  rw [← all_isBlank_paragraphs, List.all_eq_false] at h
  obtain ⟨line, hline, hnot⟩ := h
  have hfind : (t.paragraphs.find? (!·.isBlank)).isSome = true :=
    List.find?_isSome.2 ⟨line, hline, by simp [hnot]⟩
  obtain ⟨first, hfirst⟩ := Option.isSome_iff_exists.1 hfind
  obtain ⟨hfirst, blanks, rest, happend, hblanks⟩ := List.find?_eq_some_iff_append.1 hfirst
  simp only [Bool.not_not] at hblanks
  exact ⟨blanks, first, rest, happend, hblanks, by simpa using hfirst⟩

theorem subset_of_mem_paragraphs {line : Text} (h : line ∈ t.paragraphs) : line ⊆ t := by
  intro c hc
  have hmem : c ∈ t ++ ['\n'] := by
    rw [← flatMap_paragraphs]
    exact List.mem_flatMap.2 ⟨line, h, List.mem_append_left _ hc⟩
  refine (List.mem_append.1 hmem).resolve_right fun hfeed ↦ ?_
  exact notMem_of_mem_paragraphs h (List.mem_singleton.1 hfeed ▸ hc)

/-- Lines that each end with a line feed are read back in front of what comes behind them. -/
theorem paragraphs_flatMap_feed_append {lines : List Text} (h : ∀ line ∈ lines, '\n' ∉ line)
    (t : Text) : paragraphs (lines.flatMap (· ++ ['\n']) ++ t) = lines ++ t.paragraphs := by
  induction lines with
  | nil => rfl
  | cons line rest ih =>
    obtain ⟨hline, hrest⟩ := List.forall_mem_cons.1 h
    rw [List.flatMap_cons, List.append_assoc, List.append_assoc, List.singleton_append,
      paragraphs_append_feed, paragraphs_of_notMem hline, ih hrest]
    rfl

/-- Nothing comes after the last one of lines that each end with a line feed. -/
theorem paragraphs_flatMap_feed {lines : List Text} (h : ∀ line ∈ lines, '\n' ∉ line) :
    paragraphs (lines.flatMap (· ++ ['\n'])) = lines ++ [[]] := by
  rw [← List.append_nil (List.flatMap _ _), paragraphs_flatMap_feed_append h]
  rfl

/-! ## The first line -/

theorem firstLine_cons_tail (t : Text) : t.firstLine :: t.paragraphs.tail = t.paragraphs := by
  obtain ⟨first, rest, h⟩ := List.exists_cons_of_ne_nil (paragraphs_ne_nil t)
  have hfirst : t.firstLine = first := by
    rw [← join_paragraphs t, h, firstLine_join]
    exact notMem_of_mem_paragraphs (h ▸ List.mem_cons_self)
  rw [hfirst, h, List.tail_cons]

theorem firstLine_mem_paragraphs (t : Text) : t.firstLine ∈ t.paragraphs :=
  firstLine_cons_tail t ▸ List.mem_cons_self

/-- All lines of a text but the first one come behind a line feed. -/
theorem firstLine_append_flatMap (t : Text) :
    t.firstLine ++ t.paragraphs.tail.flatMap ('\n' :: ·) = t := by
  rw [← join_feed_cons, firstLine_cons_tail, join_paragraphs]

/-! ## The last line -/

section LastLine

variable {init : List Text} {last : Text}

theorem exists_paragraphs (t : Text) : ∃ init last, t.paragraphs = init ++ [last] :=
  ⟨_, _, (List.dropLast_append_getLast (paragraphs_ne_nil t)).symm⟩

/-- All lines of a text but the last one end with a line feed. -/
theorem eq_flatMap_feed_append (h : t.paragraphs = init ++ [last]) :
    t = init.flatMap (· ++ ['\n']) ++ last := by
  rw [← join_concat, ← h, join_paragraphs]

/-- The last line goes on with what is put behind the text. -/
theorem paragraphs_append (h : t.paragraphs = init ++ [last]) (hs : '\n' ∉ s) :
    (t ++ s).paragraphs = init ++ [last ++ s] := by
  have hmem : ∀ line ∈ init ++ [last], '\n' ∉ line :=
    fun line hline ↦ notMem_of_mem_paragraphs (h ▸ hline)
  obtain ⟨hinit, hlast⟩ := List.forall_mem_append.1 hmem
  have hnot : '\n' ∉ last ++ s := by
    rw [List.mem_append, not_or]
    exact ⟨hlast last (List.mem_singleton_self last), hs⟩
  rw [eq_flatMap_feed_append h, List.append_assoc, paragraphs_flatMap_feed_append hinit,
    paragraphs_of_notMem hnot]

/-- The last line is empty when nothing or a line feed comes before it, and only then. -/
theorem last_eq_nil_iff (h : t.paragraphs = init ++ [last]) :
    last = [] ↔ ∀ c ∈ t.getLast?, c = '\n' := by
  rw [eq_flatMap_feed_append h]
  constructor
  · rintro rfl c hc
    rcases List.eq_nil_or_concat init with rfl | ⟨rest, line, rfl⟩
    · cases hc
    · simpa [eq_comm] using hc
  · intro hlast
    by_contra hne
    have hget := List.getLast?_eq_getLast_of_ne_nil hne
    rw [List.getLast?_append_of_ne_nil _ hne, hget] at hlast
    have hmem := List.getLast_mem hne
    rw [hlast _ rfl] at hmem
    exact notMem_of_mem_paragraphs (h ▸ List.mem_concat_self) hmem

end LastLine

/-! ## Replaced line feeds -/

theorem replaceChar_append (t s : Text) (old : Char) (new : Text) :
    (t ++ s).replaceChar old new = t.replaceChar old new ++ s.replaceChar old new :=
  List.flatMap_append

theorem notMem_replaceChar {c : Char} {new : Text} (h : c ∉ new) (t : Text) :
    c ∉ t.replaceChar c new := by
  intro hmem
  obtain ⟨d, -, hd⟩ := List.mem_flatMap.1 hmem
  split at hd
  case isTrue => exact h hd
  case isFalse hne => exact hne (List.mem_singleton.1 hd).symm

/-- Replacing the line feeds of a text joins its lines with the replacement. -/
theorem replaceChar_feed (t new : Text) : t.replaceChar '\n' new = join new t.paragraphs := by
  induction t with
  | nil => rfl
  | cons c rest ih =>
    have hcons : replaceChar (c :: rest) '\n' new =
        (if c = '\n' then new else [c]) ++ replaceChar rest '\n' new := rfl
    rw [hcons, ih]
    by_cases hc : c = '\n'
    · subst hc
      have hparagraphs : paragraphs ('\n' :: rest) = [] :: paragraphs rest :=
        paragraphs_append_feed [] rest
      rw [if_pos rfl, hparagraphs, join, join,
        List.intercalate_cons_of_ne_nil (paragraphs_ne_nil rest)]
      rfl
    · obtain ⟨line, more, hrest⟩ := List.exists_cons_of_ne_nil (paragraphs_ne_nil rest)
      have hparagraphs : paragraphs (c :: rest) = (c :: line) :: more := by
        rw [paragraphs, List.splitOn_cons_eq_if_modifyHead, ← paragraphs, hrest,
          if_neg (by simpa using hc)]
        rfl
      rw [if_neg hc, hparagraphs, hrest]
      cases more with
      | nil => simp [join]
      | cons next more => simp [join, List.intercalate_cons_cons]

/-- Of lines that are joined with a margin, the first has the beginning of the text in front of it
and the others have the margin. -/
theorem paragraphs_indented {start margin line : Text} {more : List Text} (hstart : '\n' ∉ start)
    (hmargin : '\n' ∉ margin) (hlines : ∀ l ∈ line :: more, '\n' ∉ l) :
    (start ++ join ('\n' :: margin) (line :: more)).paragraphs =
      (start ++ line) :: more.map (margin ++ ·) := by
  induction more generalizing start line with
  | nil =>
    obtain ⟨hline, -⟩ := List.forall_mem_cons.1 hlines
    rw [join, List.intercalate_singleton]
    exact paragraphs_of_notMem (by simp [hstart, hline])
  | cons next more ih =>
    obtain ⟨hline, hmore⟩ := List.forall_mem_cons.1 hlines
    have happend : start ++ join ('\n' :: margin) (line :: next :: more) =
        (start ++ line) ++ '\n' :: (margin ++ join ('\n' :: margin) (next :: more)) := by
      simp [join, List.intercalate_cons_cons]
    rw [happend, paragraphs_append_feed, ih hmargin hmore,
      paragraphs_of_notMem (by simp [hstart, hline])]
    rfl

end DocComment.Text
