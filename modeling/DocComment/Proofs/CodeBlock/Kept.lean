import DocComment.Proofs.Document.Indent
import DocComment.Proofs.Line.Partition
import DocComment.Proofs.Record.Single
import DocComment.Proofs.Text.Paragraphs
import Mathlib.Data.List.ModifyLast

/-!
# Which code is kept

Of the lines that a block of code is made from, cut at its column, those from the first to the last
one that is not blank are kept (`CodeBlock.keptLines`).  They are joined as they are, except that
white space at the end of the last one goes (`CodeBlock.cut_eq_some`).

The code is what is left behind the bytes of the blank lines that the collected text begins with,
one more for each of their line feeds (`CodeBlock.blankBytes`).  So many bytes are a beginning of
this text (`CodeBlock.dropBlankLines_spec`), so a cut behind them goes through no character.

Lines that begin and end with something are therefore the code of a comment that has them under an
example and nothing else, at any indentation (`CodeBlock.cut_spec`).
-/

namespace DocComment

open Unicode

namespace Text

/-- Only the end of a text is trimmed if something stands there. -/
theorem trimEnd_append_of_not_isBlank {s : Text} (h : s.isBlank = false) (t : Text) :
    (t ++ s).trimEnd = t ++ s.trimEnd := by
  obtain ⟨rest, happend, hblank⟩ := exists_trimEnd_append s
  have hne : s.trimEnd ≠ [] := by
    intro hnil
    rw [← isBlank_trimEnd, hnil] at h
    cases h
  conv_lhs => rw [happend]
  rw [← List.append_assoc, trimEnd_append_blanks hblank, trimEnd_append (trimEnd_trimEnd s) hne]

end Text

namespace CodeBlock

/-! ## Lines between blank lines -/

/-- The lines from the first to the last one that is not blank. -/
def keptLines (lines : List Text) : List Text :=
  (lines.dropWhile Text.isBlank).rdropWhile Text.isBlank

/-- Lines with blank lines around them: what stands between these begins and ends with a line that
is not blank. -/
structure Framed (lines before init : List Text) (last : Text) (after : List Text) : Prop where
  lines_eq : lines = before ++ (init ++ last :: after)
  before : ∀ line ∈ before, line.isBlank = true
  first : ∀ line ∈ (init ++ [last]).head?, line.isBlank = false
  last : last.isBlank = false
  after : ∀ line ∈ after, line.isBlank = true

variable {lines before init after : List Text} {last : Text}

theorem keptLines_eq_nil_iff : keptLines lines = [] ↔ ∀ line ∈ lines, line.isBlank = true := by
  rw [keptLines, List.rdropWhile_eq_nil_iff]
  constructor
  · intro h line hline
    have hcut := List.takeWhile_append_dropWhile (p := Text.isBlank) (l := lines)
    rw [← hcut, List.mem_append] at hline
    rcases hline with htake | hdrop
    · exact List.mem_takeWhile_imp htake
    · exact h line hdrop
  · intro h line hline
    exact h line ((List.dropWhile_suffix _).subset hline)

/-- The lines that are kept have blank lines around them. -/
theorem exists_framed (h : ∃ line ∈ lines, line.isBlank = false) :
    ∃ before init last after, keptLines lines = init ++ [last] ∧
      Framed lines before init last after := by
  have hne : keptLines lines ≠ [] := by
    obtain ⟨line, hline, hblank⟩ := h
    intro hnil
    rw [keptLines_eq_nil_iff.1 hnil line hline] at hblank
    cases hblank
  have hkept := List.rdropWhile_append_rtakeWhile
    (p := Text.isBlank) (l := lines.dropWhile Text.isBlank)
  refine ⟨lines.takeWhile Text.isBlank, (keptLines lines).dropLast, (keptLines lines).getLast hne,
    (lines.dropWhile Text.isBlank).rtakeWhile Text.isBlank, ?_, ?_, ?_, ?_, ?_, ?_⟩
  · exact (List.dropLast_append_getLast hne).symm
  · rw [List.append_cons, List.dropLast_append_getLast hne, keptLines, hkept,
      List.takeWhile_append_dropWhile]
  · exact fun line hline ↦ List.mem_takeWhile_imp hline
  · rw [List.dropLast_append_getLast hne]
    have hhead := List.head?_dropWhile_not Text.isBlank lines
    rw [← hkept, ← keptLines, List.head?_append_of_ne_nil _ hne] at hhead
    intro line hline
    rw [Option.mem_def.1 hline] at hhead
    exact hhead
  · exact Bool.of_not_eq_true (List.rdropWhile_last_not _ _ hne)
  · exact fun line hline ↦ List.mem_rtakeWhile_imp hline

/-! ## The collected text -/

namespace Framed

/-- White space is trimmed off the collected lines up to the last one that is not blank. -/
theorem trimEnd_flatMap_feed (h : Framed lines before init last after) :
    Text.trimEnd (lines.flatMap (· ++ ['\n'])) =
      before.flatMap (· ++ ['\n']) ++ Text.join ['\n'] (init ++ [last.trimEnd]) := by
  have hblank : Text.isBlank (([] :: after).flatMap (· ++ ['\n'])) = true := by
    rw [Text.isBlank_flatMap_feed, List.all_eq_true]
    exact List.forall_mem_cons.2 ⟨rfl, h.after⟩
  have htext : lines.flatMap (· ++ ['\n']) =
      before.flatMap (· ++ ['\n']) ++ (init.flatMap (· ++ ['\n']) ++ last) ++
        ([] :: after).flatMap (· ++ ['\n']) := by
    simp [h.lines_eq]
  rw [htext, Text.trimEnd_append_blanks hblank, ← List.append_assoc,
    Text.trimEnd_append_of_not_isBlank h.last, Text.join_concat, List.append_assoc]

/-- The lines of the trimmed text; the first of them that is not blank comes behind the blank lines
that the text begins with. -/
theorem exists_paragraphs (h : Framed lines before init last after)
    (hlines : ∀ line ∈ lines, '\n' ∉ line) :
    ∃ first rest, init ++ [last.trimEnd] = first :: rest ∧ first.isBlank = false ∧
      Text.paragraphs (before.flatMap (· ++ ['\n']) ++ Text.join ['\n'] (init ++ [last.trimEnd])) =
        before ++ first :: rest := by
  rw [h.lines_eq, List.forall_mem_append, List.forall_mem_append, List.forall_mem_cons] at hlines
  obtain ⟨hbefore, hinit, hlast, -⟩ := hlines
  have hlast' : '\n' ∉ last.trimEnd := fun hmem ↦ hlast (Text.trimEnd_subset last hmem)
  have hparagraphs : Text.paragraphs
      (before.flatMap (· ++ ['\n']) ++ Text.join ['\n'] (init ++ [last.trimEnd])) =
        before ++ (init ++ [last.trimEnd]) := by
    rw [Text.paragraphs_flatMap_feed_append hbefore, Text.join_concat,
      Text.paragraphs_flatMap_feed_append hinit, Text.paragraphs_of_notMem hlast']
  rw [hparagraphs]
  cases init with
  | nil => exact ⟨last.trimEnd, [], rfl, (Text.isBlank_trimEnd last).trans h.last, rfl⟩
  | cons first rest => exact ⟨first, rest ++ [last.trimEnd], rfl, h.first first rfl, rfl⟩

theorem dropBlankLines_eq (h : Framed lines before init last after)
    (hlines : ∀ line ∈ lines, '\n' ∉ line) :
    dropBlankLines (Text.trimEnd (lines.flatMap (· ++ ['\n']))) =
      Text.join ['\n'] (init ++ [last.trimEnd]) := by
  obtain ⟨first, rest, hcons, hfirst, hparagraphs⟩ := h.exists_paragraphs hlines
  rw [h.trimEnd_flatMap_feed, (CodeBlock.dropBlankLines_eq hparagraphs h.before hfirst).1, hcons]

end Framed

/-! ## The code of some lines -/

variable {column : Nat}

theorem isBlank_code (column : Nat) (lines : List Text) :
    (lines.foldl addLine ⟨column, []⟩).code.isBlank =
      (lines.map (·.drop column)).all Text.isBlank := by
  rw [code_foldl, ← Text.isBlank_flatMap_feed, List.flatMap_map]

theorem cut_eq_none_iff :
    cut column lines = none ↔ ∀ line ∈ lines.map (·.drop column), Text.isBlank line = true := by
  rw [cut, finish, isBlank_code, ite_eq_left_iff, ← List.all_eq_true]
  simp

/-- The code of some lines, and where it begins in the text that was collected: behind a beginning
of this text that has the bytes of its blank lines. -/
theorem cut_eq_some (column : Nat) (hlines : ∀ line ∈ lines, '\n' ∉ line)
    (h : ∃ line ∈ lines.map (·.drop column), Text.isBlank line = false) :
    let body := (lines.foldl addLine ⟨column, []⟩).code.trimEnd
    cut column lines =
        some (Text.join ['\n'] ((keptLines (lines.map (·.drop column))).modifyLast Text.trimEnd)) ∧
      cut column lines = some (body.dropBytes (blankBytes body)) ∧
      ∃ start, body = start ++ body.dropBytes (blankBytes body) ∧
        start.byteSize = blankBytes body := by
  intro body
  have hdrop : ∀ line ∈ lines.map (·.drop column), '\n' ∉ line := by
    intro line hline hmem
    obtain ⟨whole, hwhole, rfl⟩ := List.mem_map.1 hline
    exact hlines whole hwhole (List.mem_of_mem_drop hmem)
  have hblank : (lines.foldl addLine ⟨column, []⟩).code.isBlank = false := by
    obtain ⟨line, hline, hnot⟩ := h
    rw [isBlank_code, List.all_eq_false]
    exact ⟨line, hline, Bool.eq_false_iff.1 hnot⟩
  have hcut : cut column lines = some (dropBlankLines body) :=
    if_neg (Bool.eq_false_iff.1 hblank)
  have hkeep : dropBlankLines body =
      Text.join ['\n'] ((keptLines (lines.map (·.drop column))).modifyLast Text.trimEnd) := by
    obtain ⟨before, init, last, after, hkept, hframed⟩ := exists_framed h
    rw [hkept, List.modifyLast_concat, ← hframed.dropBlankLines_eq hdrop, List.flatMap_map,
      ← code_foldl]
  obtain ⟨-, hstart⟩ := dropBlankLines_spec ((Text.isBlank_trimEnd _).trans hblank)
  exact ⟨hcut.trans (congrArg some hkeep), hcut, hstart⟩

/-! ## Comments with one example -/

/-- Lines that can be the whole code of an example: they begin with something and end with
something that is not white space, and no tag is among them. -/
structure IsSample (code : List Text) : Prop where
  unbroken : ∀ line ∈ code, line.Unbroken
  noTag : ∀ line ∈ code, Line.isTagStart line = false
  first : ∃ line ∈ code.head?, line.isBlank = false
  last : ∃ line ∈ code.getLast?, line.isBlank = false ∧ line.trimEnd = line

namespace IsSample

variable {code : List Text}

theorem modifyLast_keptLines (h : IsSample code) :
    (keptLines code).modifyLast Text.trimEnd = code := by
  obtain ⟨first, hfirst, hfirstBlank⟩ := h.first
  obtain ⟨last, hlast, hlastBlank, htrimmed⟩ := h.last
  have hdrop : code.dropWhile Text.isBlank = code := by
    obtain ⟨rest, rfl⟩ := List.head?_eq_some_iff.1 hfirst
    exact List.dropWhile_cons_of_neg (Bool.eq_false_iff.1 hfirstBlank)
  obtain ⟨init, rfl⟩ := List.getLast?_eq_some_iff.1 hlast
  rw [keptLines, hdrop, List.rdropWhile_concat_neg _ _ _ (Bool.eq_false_iff.1 hlastBlank),
    List.modifyLast_concat, htrimmed]

theorem cut_eq (h : IsSample code) : cut 0 code = some (Text.join ['\n'] code) := by
  obtain ⟨first, hfirst, hblank⟩ := h.first
  have hdrop : code.map (·.drop 0) = code := List.map_id code
  have hfeed : ∀ line ∈ code, '\n' ∉ line := fun line hline ↦ (h.unbroken line hline).notMem_feed
  obtain ⟨hsome, -⟩ :=
    cut_eq_some 0 hfeed ⟨first, hdrop.symm ▸ List.mem_of_mem_head? hfirst, hblank⟩
  rwa [hdrop, h.modifyLast_keptLines] at hsome

end IsSample

end CodeBlock

open CodeBlock (IsSample)

/-- A comment with an example and nothing else is read into this example. -/
theorem Document.parse_sample {code : List Text} (h : IsSample code) :
    (ofLines (Tag.codeExample.token :: code)).parse =
      .ok { examples := [⟨none, Text.join ['\n'] code⟩] } := by
  let s : Section := ⟨Tag.codeExample.token, code⟩
  have hargument : s.argument? .codeExample = some [] := rfl
  have hcut : (mk [] [s]).IsCut :=
    ⟨List.forall_mem_nil _, List.forall_mem_singleton.2 (Tag.isTagStart_of_argument? hargument),
      List.forall_mem_singleton.2 h.noTag⟩
  have hlines : (mk [] [s]).lines = Tag.codeExample.token :: code := List.append_nil _
  have hexamples : Example.ofSections [s] = [⟨none, Text.join ['\n'] code⟩] := by
    have hcode : CodeBlock.cut s.column s.body = some (Text.join ['\n'] code) := h.cut_eq
    rw [Example.ofSections, Section.entries_singleton, hargument, Option.bind_some, hcode]
    rfl
  have htexts : ∀ tag, tag ≠ .codeExample → Section.texts tag [s] = [] :=
    fun _ hne ↦ Section.entries_singleton_of_ne hargument hne _
  have hreturns : Section.lastText .returns [s] = none := by
    rw [Section.lastText_singleton, Section.argument?_of_ne hargument (by decide)]
    rfl
  rw [← hlines, ofLines_lines hcut, parse_singleton hargument (by decide),
    record_singleton hargument (.inl rfl), hexamples, htexts _ (by decide), htexts _ (by decide),
    hreturns]

/-- Which code is kept of some lines, when they are cut at a column.  There is none exactly when
nothing but white space is left of each line.  Otherwise it is the lines from the first to the last
one that is not blank, joined as they are but for the white space at the end of the last one; and it
is what comes behind the bytes of the blank lines that the collected text begins with, which are the
bytes of a beginning of this text.

So lines that begin and end with something, behind a header and at any indentation, are read into
one example with exactly these lines as its code, and into nothing else. -/
theorem CodeBlock.cut_spec :
    (∀ (column : Nat) (lines : List Text), (∀ line ∈ lines, '\n' ∉ line) →
      let cutLines := lines.map (·.drop column)
      let body := (lines.foldl addLine ⟨column, []⟩).code.trimEnd
      (cut column lines = none ↔ ∀ line ∈ cutLines, Text.isBlank line = true) ∧
      ((∃ line ∈ cutLines, Text.isBlank line = false) →
        cut column lines =
            some (Text.join ['\n'] ((keptLines cutLines).modifyLast Text.trimEnd)) ∧
          cut column lines = some (body.dropBytes (blankBytes body)) ∧
          ∃ start, body = start ++ body.dropBytes (blankBytes body) ∧
            start.byteSize = blankBytes body)) ∧
    ∀ (w : Text) (code : List Text), w.isBlank = true → w.Unbroken → IsSample code →
      let lines := (Tag.codeExample.token :: code).map (w ++ ·)
      Line.split (Text.join ['\n'] lines) = lines ∧
      ∀ comment, Line.split comment = lines →
        parse comment = .ok { examples := [⟨none, Text.join ['\n'] code⟩] } := by
  refine ⟨fun column lines hlines ↦ ⟨cut_eq_none_iff, cut_eq_some column hlines⟩, ?_⟩
  intro w code hw hunbroken hcode lines
  constructor
  · refine Line.split_join ?_ ?_
    · intro line hline
      obtain ⟨bare, hbare, rfl⟩ := List.mem_map.1 hline
      refine List.forall_mem_append.2 ⟨hunbroken, ?_⟩
      rcases List.mem_cons.1 hbare with rfl | hbare
      · exact Tag.codeExample.unbroken_token
      · exact hcode.unbroken bare hbare
    · obtain ⟨last, hlast, hblank, -⟩ := hcode.last
      have hget : lines.getLast? = some (w ++ last) := by
        rw [List.getLast?_map, List.getLast?_cons, Option.mem_def.1 hlast]
        rfl
      rw [hget, Ne, Option.some_inj, List.append_eq_nil_iff]
      rintro ⟨-, rfl⟩
      cases hblank
  · intro comment hcomment
    rw [parse, parseLines, hcomment, Document.ofLines_indent hw, Document.parse_indent hw,
      Document.parse_sample hcode]

/-- Characters of several bytes, in front of the column and in blank lines; and an empty line inside
of indented code. -/
theorem CodeBlock.cut_spec_wide :
    let lines : List Text := ["éé\u2003".toList, ['x'], "\u2003\u2003é ".toList, [], "éé b ".toList]
    let body := (lines.foldl addLine ⟨2, []⟩).code.trimEnd
    let code : List Text := [['a'], [], "  b".toList]
    (∀ line ∈ lines, '\n' ∉ line) ∧ cut 2 lines = some "é \n\n b".toList ∧
      blankBytes body = 5 ∧ body.dropBytes 5 = "é \n\n b".toList ∧ IsSample code ∧
      parse "\u2003@example\n\u2003a\n\u2003\n\u2003  b".toList =
        .ok { examples := [⟨none, "a\n\n  b".toList⟩] } := by
  intro lines body code
  have hlines : ∀ line ∈ lines, '\n' ∉ line := by decide
  have hsome : ∃ line ∈ lines.map (·.drop 2), Text.isBlank line = false :=
    ⟨"é ".toList, by decide, by decide⟩
  have hsample : IsSample code :=
    ⟨by decide, by decide, ⟨['a'], rfl, rfl⟩, ⟨"  b".toList, rfl, rfl, rfl⟩⟩
  have hbytes : blankBytes body = 5 := by decide
  obtain ⟨-, hcut⟩ := cut_spec.1 2 lines hlines
  obtain ⟨-, hdrop, -⟩ := hcut hsome
  have hcode : cut 2 lines = some "é \n\n b".toList := hdrop.trans (by decide)
  refine ⟨hlines, hcode, hbytes, ?_, hsample, ?_⟩
  · rw [hcode, hbytes] at hdrop
    exact (Option.some_inj.1 hdrop).symm
  · exact (cut_spec.2 "\u2003".toList code rfl (by decide) hsample).2 _ (by decide)

end DocComment
