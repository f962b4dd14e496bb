import DocComment.Proofs.Document.Rearrange
import DocComment.Proofs.Markdown.Lines
import Mathlib.Data.List.DropRight

/-!
# Rows of the parameter table

A row of a table is one line, and the bars in it divide its cells, except those that are escaped: a
bar is when an odd number of backslashes stands directly before it (`Markdown.isEscapedAt`).  The
row of a parameter has three bars of its own, and a cell puts a backslash in front of each bar of
its text.  That escapes a bar that was open.  One that the text has escaped already gets a second
backslash and is open (`Markdown.exists_openBars_append_escapeCell`), so a row has one bar too many
for each of those.
-/

namespace DocComment.Markdown

variable {t : Text} {c : Char}

/-! ## Escaped bars -/

/-- How many backslashes a text ends with. -/
def backslashes (t : Text) : Nat := (t.rtakeWhile (· = '\\')).length

/-- Whether an odd number of backslashes stands directly before a place of a text. -/
def isEscapedAt (t : Text) (i : Nat) : Bool := backslashes (t.take i) % 2 == 1

/-- The places of the bars of a text that are escaped, or of those that are not. -/
def bars (escaped : Bool) (t : Text) : List Nat :=
  (List.range t.length).filter fun i ↦ t[i]? == some '|' && isEscapedAt t i == escaped

/-- The places of the bars that divide a text. -/
def openBars (t : Text) : List Nat := bars false t

/-- The places of the bars that do not. -/
def escapedBars (t : Text) : List Nat := bars true t

theorem backslashes_concat_backslash (t : Text) :
    backslashes (t ++ ['\\']) = backslashes t + 1 := by
  rw [backslashes, List.rtakeWhile_concat_pos _ _ _ (by decide), List.length_append]
  rfl

theorem backslashes_concat (h : c ≠ '\\') (t : Text) : backslashes (t ++ [c]) = 0 := by
  rw [backslashes, List.rtakeWhile_concat_neg _ _ _ (by simpa using h)]
  rfl

theorem bars_concat (escaped : Bool) (t : Text) (c : Char) :
    bars escaped (t ++ [c]) =
      bars escaped t ++
        if c = '|' ∧ (backslashes t % 2 == 1) = escaped then [t.length] else [] := by
  have hbefore : (List.range t.length).filter (fun i ↦
        (t ++ [c])[i]? == some '|' && isEscapedAt (t ++ [c]) i == escaped) = bars escaped t := by
    refine List.filter_congr fun i hi ↦ ?_
    have hi : i < t.length := List.mem_range.1 hi
    rw [List.getElem?_append_left hi, isEscapedAt, List.take_append_of_le_length hi.le, isEscapedAt]
  rw [bars, List.length_append, List.length_singleton, List.range_succ, List.filter_append, hbefore,
    List.filter_singleton, List.getElem?_concat_length, isEscapedAt, List.take_left]
  simp

theorem bars_append_of_notMem {s : Text} (h : '|' ∉ s) (escaped : Bool) (t : Text) :
    bars escaped (t ++ s) = bars escaped t := by
  induction s using List.reverseRecOn with
  | nil => rw [List.append_nil]
  | append_singleton s c ih =>
    rw [List.mem_append, not_or, List.mem_singleton] at h
    rw [← List.append_assoc, bars_concat, ih h.1, if_neg fun hc ↦ h.2 hc.1.symm, List.append_nil]

/-! ## Cells -/

theorem escapeCell_append (t s : Text) : escapeCell (t ++ s) = escapeCell t ++ escapeCell s := by
  rw [escapeCell, Text.replaceChar_append, Text.replaceChar_append, escapeCell, escapeCell]

theorem escapeCell_bar : escapeCell ['|'] = ['\\'] ++ ['|'] := rfl

theorem escapeCell_feed : escapeCell ['\n'] = "<br".toList ++ ['>'] := rfl

theorem escapeCell_singleton (hbar : c ≠ '|') (hfeed : c ≠ '\n') : escapeCell [c] = [c] := by
  simp [escapeCell, Text.replaceChar, hbar, hfeed]

theorem notMem_escapeCell (h : c ≠ '|') : '|' ∉ escapeCell [c] := by
  by_cases hfeed : c = '\n'
  · rw [hfeed, escapeCell_feed]
    decide
  · rw [escapeCell_singleton h hfeed, List.mem_singleton]
    exact h.symm

/-- A cell ends with the backslashes of its text: what is written for any other character ends with
none. -/
theorem backslashes_append_escapeCell {start : Text} (hstart : backslashes start = 0) (t : Text) :
    backslashes (start ++ escapeCell t) = backslashes t := by
  induction t using List.reverseRecOn with
  | nil => exact (congrArg backslashes (List.append_nil start)).trans hstart
  | append_singleton t c ih =>
    rw [escapeCell_append, ← List.append_assoc]
    by_cases hbackslash : c = '\\'
    · rw [hbackslash, escapeCell_singleton (by decide) (by decide), backslashes_concat_backslash,
        backslashes_concat_backslash, ih]
    rw [backslashes_concat hbackslash]
    by_cases hbar : c = '|'
    · rw [hbar, escapeCell_bar, ← List.append_assoc, backslashes_concat (by decide)]
    by_cases hfeed : c = '\n'
    · rw [hfeed, escapeCell_feed, ← List.append_assoc, backslashes_concat (by decide)]
    · rw [escapeCell_singleton hbar hfeed, backslashes_concat hbackslash]

/-- A cell has as many open bars as its text has escaped ones. -/
theorem exists_openBars_append_escapeCell {start : Text} (hstart : backslashes start = 0)
    (t : Text) :
    ∃ places, openBars (start ++ escapeCell t) = openBars start ++ places ∧
      places.length = (escapedBars t).length := by
  induction t using List.reverseRecOn with
  | nil => exact ⟨[], by simp [escapeCell, Text.replaceChar], rfl⟩
  | append_singleton t c ih =>
    obtain ⟨places, hplaces, hlength⟩ := ih
    rw [escapeCell_append, ← List.append_assoc, escapedBars, bars_concat]
    by_cases hbar : c = '|'
    · -- The cell has one backslash more in front of the bar than the text.
      have hbackslashes : backslashes (start ++ escapeCell t ++ ['\\']) = backslashes t + 1 := by
        rw [backslashes_concat_backslash, backslashes_append_escapeCell hstart]
      subst hbar
      rw [escapeCell_bar, ← List.append_assoc, openBars, bars_concat, hbackslashes,
        bars_append_of_notMem (by decide), ← openBars, hplaces, List.append_assoc]
      refine ⟨_, rfl, ?_⟩
      have hparity : ((backslashes t + 1) % 2 == 1) = false ↔ (backslashes t % 2 == 1) = true := by
        rw [beq_eq_false_iff_ne, beq_iff_eq]
        omega
      simp only [List.length_append, apply_ite List.length, List.length_singleton, List.length_nil,
        hlength, hparity, escapedBars]
    · refine ⟨places, ?_, ?_⟩
      · rw [openBars, bars_append_of_notMem (notMem_escapeCell hbar)]
        exact hplaces
      · rw [if_neg fun hc ↦ hbar hc.1, List.append_nil, hlength]
        rfl

theorem unbroken_escapeCell (h : t.OnlyFeeds) : (escapeCell t).Unbroken := by
  induction t with
  | nil => exact Text.unbroken_nil
  | cons c rest ih =>
    have hrest : (escapeCell rest).Unbroken := ih (h.mono (List.subset_cons_self c rest))
    have hc : (escapeCell [c]).Unbroken := by
      by_cases hbar : c = '|'
      · rw [hbar, escapeCell_bar]
        decide
      by_cases hfeed : c = '\n'
      · rw [hfeed, escapeCell_feed]
        decide
      · rw [escapeCell_singleton hbar hfeed]
        refine .cons (Bool.eq_false_iff.2 fun hbreak ↦ hfeed ?_) Text.unbroken_nil
        exact h c List.mem_cons_self hbreak
    rw [← List.singleton_append, escapeCell_append]
    exact hc.append hrest

/-! ## Rows -/

/-- The space in front of a bar keeps the text from escaping it. -/
theorem openBars_append_spaced_bar (t : Text) :
    openBars (t ++ [' '] ++ ['|']) = openBars t ++ [t.length + 1] := by
  rw [openBars, bars_concat, backslashes_concat (by decide), bars_append_of_notMem (by decide),
    List.length_append]
  rfl

theorem parameterRow_eq (p : Parameter) :
    parameterRow p = "|\x60".toList ++ escapeCell p.name ++ ['\x60'] ++ [' '] ++ ['|'] ++
      escapeCell p.description ++ [' '] ++ ['|'] := by
  simp [parameterRow, codeSpan]

/-- The places of the bars around the two cells of a row. -/
def frameBars (p : Parameter) : List Nat :=
  [0, (escapeCell p.name).length + 4, (parameterRow p).length - 1]

/-- A row has the bars around its cells, and in each cell as many as are escaped in the text. -/
theorem exists_openBars_parameterRow (p : Parameter) :
    ∃ inName inDescription,
      openBars (parameterRow p) = [0] ++ inName ++ [(escapeCell p.name).length + 4] ++
        inDescription ++ [(parameterRow p).length - 1] ∧
      inName.length = (escapedBars p.name).length ∧
      inDescription.length = (escapedBars p.description).length := by
  have hstart : backslashes "|\x60".toList = 0 := rfl
  obtain ⟨inName, hname, hlengthName⟩ := exists_openBars_append_escapeCell hstart p.name
  have hmiddle : ∀ t : Text, backslashes (t ++ ['|']) = 0 := backslashes_concat (by decide)
  obtain ⟨inDescription, hdescription, hlengthDescription⟩ :=
    exists_openBars_append_escapeCell
      (hmiddle ("|\x60".toList ++ escapeCell p.name ++ ['\x60'] ++ [' '])) p.description
  refine ⟨inName, inDescription, ?_, hlengthName, hlengthDescription⟩
  have hfirst : openBars "|\x60".toList = [0] := by decide
  have hplace : ("|\x60".toList ++ escapeCell p.name ++ ['\x60']).length + 1 =
      (escapeCell p.name).length + 4 := by
    simp +arith
  have hlast : ∀ t : Text, (t ++ [' '] ++ ['|']).length - 1 = t.length + 1 := fun t ↦ by simp
  rw [parameterRow_eq, openBars_append_spaced_bar, hdescription, openBars_append_spaced_bar,
    openBars, bars_append_of_notMem (by decide), ← openBars, hname, hfirst, hplace,
    hlast]

theorem length_openBars_parameterRow (p : Parameter) :
    (openBars (parameterRow p)).length =
      3 + (escapedBars p.name).length + (escapedBars p.description).length := by
  obtain ⟨inName, inDescription, hbars, hname, hdescription⟩ := exists_openBars_parameterRow p
  rw [hbars, ← hname, ← hdescription]
  simp only [List.length_append, List.length_cons, List.length_nil]
  omega

/-- The bars around its cells are the only open ones of a row when no bar of the name or of the
description is escaped, and only then. -/
theorem openBars_eq_frameBars_iff (p : Parameter) :
    openBars (parameterRow p) = frameBars p ↔
      escapedBars p.name = [] ∧ escapedBars p.description = [] := by
  constructor
  · intro h
    have hlength : 3 = (openBars (parameterRow p)).length := (congrArg List.length h).symm
    rw [length_openBars_parameterRow] at hlength
    constructor <;> apply List.eq_nil_of_length_eq_zero <;> omega
  · rintro ⟨hname, hdescription⟩
    obtain ⟨inName, inDescription, hbars, hlengthName, hlengthDescription⟩ :=
      exists_openBars_parameterRow p
    rw [hname, List.length_nil, List.length_eq_zero_iff] at hlengthName
    rw [hdescription, List.length_nil, List.length_eq_zero_iff] at hlengthDescription
    rw [hbars, hlengthName, hlengthDescription]
    rfl

theorem unbroken_parameterRow {p : Parameter} (hp : p.WellFormed) : (parameterRow p).Unbroken := by
  have hname : (escapeCell p.name).Unbroken := unbroken_escapeCell hp.unbroken.onlyFeeds
  have hdescription : (escapeCell p.description).Unbroken := unbroken_escapeCell hp.onlyFeeds
  have hstart : Text.Unbroken "|\x60".toList := by decide
  have htick : Text.Unbroken ['\x60'] := by decide
  have hspace : Text.Unbroken [' '] := by decide
  have hbar : Text.Unbroken ['|'] := by decide
  rw [parameterRow_eq]
  exact ((((((hstart.append hname).append htick).append hspace).append hbar).append
    hdescription).append hspace).append hbar

/-! ## Tables -/

/-- The lines of a table: its head, and a row for each parameter. -/
def tableLines (ps : List Parameter) : List Text :=
  "|Parameter |Description |".toList :: "|---|---|".toList :: ps.map parameterRow

theorem pieceLines_parameterTable {ps : List Parameter} (hne : ps ≠ [])
    (hrows : ∀ p ∈ ps, (parameterRow p).Unbroken) :
    pieceLines (parameterTable ps) = tableLines ps ++ [[]] := by
  have hlines : (ps.map fun p ↦ Piece.text (parameterRow p)).flatMap (·.toText.paragraphs) =
      ps.map parameterRow := by
    rw [List.flatMap_map, List.map_eq_flatMap]
    refine List.flatMap_congr fun p hp ↦ ?_
    exact Text.paragraphs_of_notMem (hrows p hp).notMem_feed
  rw [parameterTable, if_neg (by simpa using hne), pieceLines, List.flatMap_append,
    List.flatMap_cons, List.flatMap_cons, hlines]
  rfl

/-- The table stands in the body in one piece. -/
theorem tableLines_infix_body (o : Options) {r : Record} (hne : r.parameters ≠ [])
    (hrows : ∀ p ∈ r.parameters, (parameterRow p).Unbroken) :
    tableLines r.parameters <:+: (body o r).paragraphs := by
  have habove : parameterTable r.parameters <:+: piecesAbove r := by
    refine ⟨deprecationNotice r.deprecated ++ descriptionQuote r.description,
      returnsLine r.returns ++ listSection "Throws".toList (r.throws.map throwItem), ?_⟩
    simp only [piecesAbove, List.append_assoc]
  have htable : parameterTable r.parameters <:+: pieces o r := by
    rw [pieces_eq, List.append_assoc]
    exact habove.trans (List.prefix_append _ _).isInfix
  have htable_ne : parameterTable r.parameters ≠ [] := by
    rw [parameterTable, if_neg (by simpa using hne)]
    exact List.cons_ne_nil _ _
  have hlines : pieceLines (parameterTable r.parameters) <:+: (body o r).paragraphs := by
    rw [paragraphs_body (List.IsInfix.ne_nil htable htable_ne)]
    exact List.IsInfix.flatMap htable _
  rw [pieceLines_parameterTable hne hrows] at hlines
  exact (List.prefix_append _ _).isInfix.trans hlines

/-- The table of a comment's parameters has a line for each of them.  The bars of a row are the
three around its cells, and one for each bar that has an odd number of backslashes before it in the
name or the description; so there are two cells as long as neither has such a bar. -/
theorem openBars_parameterRow {comment : Text} {r : Record} (h : parse comment = .ok r)
    (o : Options) {p : Parameter} (hp : p ∈ r.parameters) :
    tableLines r.parameters <:+: (body o r).paragraphs ∧
    (parameterRow p).Unbroken ∧
    (openBars (parameterRow p)).length =
      3 + (escapedBars p.name).length + (escapedBars p.description).length ∧
    (openBars (parameterRow p) = frameBars p ↔
      escapedBars p.name = [] ∧ escapedBars p.description = []) := by
  obtain ⟨-, rfl⟩ := Document.parse_eq_ok_iff.1 h
  have hrecord := Document.wellFormed_record (Document.unbroken_ofText comment)
  have hrows := fun p hp ↦ unbroken_parameterRow (hrecord.parameters p hp)
  exact ⟨tableLines_infix_body o (List.ne_nil_of_mem hp) hrows, hrows p hp,
    length_openBars_parameterRow p, openBars_eq_frameBars_iff p⟩

/-- A description of two paragraphs, whose first bar is escaped and whose third has two backslashes
before it. -/
theorem openBars_parameterRow_escaped :
    let comment := "@param a|b x\\|y\n\n\nz|\\\\|".toList
    let p : Parameter := ⟨"a|b".toList, "x\\|y\n\nz|\\\\|".toList⟩
    let r : Record := { parameters := [p] }
    parse comment = .ok r ∧ tableLines [p] <:+: (body {} r).paragraphs ∧
      (parameterRow p).Unbroken ∧ (openBars (parameterRow p)).length = 4 ∧
      openBars (parameterRow p) ≠ frameBars p := by
  intro comment p r
  have h : parse comment = .ok r := by decide
  obtain ⟨htable, hrow, hlength, hframe⟩ := openBars_parameterRow h {} (List.mem_singleton_self p)
  exact ⟨h, htable, hrow, hlength.trans (by decide), fun heq ↦ absurd (hframe.1 heq).2 (by decide)⟩

/-- Not every row has three bars: the one in the description is open behind its two backslashes. -/
theorem not_length_openBars_parameterRow :
    ¬∀ (comment : Text) (r : Record), parse comment = .ok r →
      ∀ p ∈ r.parameters, (parameterRow p).Unbroken ∧ (openBars (parameterRow p)).length = 3 := by
  intro hall
  let p : Parameter := ⟨"x".toList, "a\\|b".toList⟩
  have hparse : parse "@param x a\\|b".toList = .ok { parameters := [p] } := by decide
  have hlength := (hall _ _ hparse p (List.mem_singleton_self p)).2
  revert hlength
  decide

end DocComment.Markdown
