import DocComment.Description
import DocComment.Proofs.Line.Unbroken
import DocComment.Proofs.Text.Bytes
import DocComment.Proofs.Text.Paragraphs

/-!
# Shapes of collected texts

A text of a record has one of three shapes.  A *label* was found on a single line, a text of *prose*
was collected from several, and *code* keeps the beginnings of its lines.  What is collected from
unbroken lines has no characters that end a line but the line feeds that are put in
(`Prose.onlyFeeds_foldl`, `CodeBlock.code_foldl`); the rest is what trimming gives.
-/

namespace DocComment

namespace Text

variable {t s : Text}

/-- A text from a single line: trimmed, and not empty. -/
structure IsLabel (t : Text) : Prop where
  nonempty : t ≠ []
  trimmed : t.IsTrimmed
  unbroken : t.Unbroken

/-- Running text: trimmed, not empty, and cut by line feeds only. -/
structure IsProse (t : Text) : Prop where
  nonempty : t ≠ []
  trimmed : t.IsTrimmed
  onlyFeeds : t.OnlyFeeds

/-- Sample code: it has something on its first line, and no white space at its end. -/
structure IsCode (t : Text) : Prop where
  nonempty : t ≠ []
  firstLine : t.firstLine.isBlank = false
  trimmedEnd : t.trimEnd = t
  onlyFeeds : t.OnlyFeeds

theorem Unbroken.isLabel (h : t.Unbroken) (hs : t.nonBlank? = some s) : s.IsLabel := by
  obtain ⟨hne, htrimmed, hsubset⟩ := of_nonBlank? hs
  exact ⟨hne, htrimmed, h.mono hsubset⟩

theorem OnlyFeeds.isProse (h : t.OnlyFeeds) (hs : t.nonBlank? = some s) : s.IsProse := by
  obtain ⟨hne, htrimmed, hsubset⟩ := of_nonBlank? hs
  exact ⟨hne, htrimmed, h.mono hsubset⟩

end Text

open Text (OnlyFeeds Unbroken IsProse IsCode)

/-! ## Prose -/

namespace Prose

variable {p : Prose}

/-- The text that a step adds. -/
def Step.text : Step → Text
  | line t | words t | item t => t
  | paragraphBreak => []

theorem onlyFeeds_addAfter {separator : Char} {t : Text} (hp : p.text.OnlyFeeds)
    (hseparator : OnlyFeeds [separator]) (ht : t.OnlyFeeds) :
    (p.addAfter separator t).text.OnlyFeeds := by
  rw [text_addAfter]
  refine OnlyFeeds.append ?_ ht
  split
  case isTrue => exact hp
  case isFalse => exact hp.append hseparator

theorem onlyFeeds_breakParagraph (hp : p.text.OnlyFeeds) : p.breakParagraph.text.OnlyFeeds := by
  rw [text_breakParagraph]
  split
  case isTrue => exact Text.onlyFeeds_nil
  case isFalse => exact hp.append Text.onlyFeeds_feed

/-- A step puts in its own text, spaces and line feeds. -/
theorem onlyFeeds_add {step : Step} (hp : p.text.OnlyFeeds) (ht : step.text.OnlyFeeds) :
    (p.add step).text.OnlyFeeds := by
  cases step with
  | line t =>
    rw [add, addLine]
    split
    case isTrue => exact onlyFeeds_breakParagraph hp
    case isFalse =>
      exact onlyFeeds_addAfter hp Text.onlyFeeds_space (ht.mono (Text.trim_subset t))
  | words t => exact onlyFeeds_addAfter hp Text.onlyFeeds_space ht
  | item t => exact onlyFeeds_addAfter hp Text.onlyFeeds_feed ht
  | paragraphBreak => exact onlyFeeds_breakParagraph hp

theorem onlyFeeds_foldl {steps : List Step} (hp : p.text.OnlyFeeds)
    (hsteps : ∀ step ∈ steps, step.text.OnlyFeeds) : (steps.foldl add p).text.OnlyFeeds := by
  induction steps generalizing p with
  | nil => exact hp
  | cons step steps ih =>
    obtain ⟨hstep, hrest⟩ := List.forall_mem_cons.1 hsteps
    exact ih (onlyFeeds_add hp hstep) hrest

/-- What is made of an unbroken seed and unbroken lines is prose. -/
theorem isProse_of_reflow {seed t : Text} {lines : List Text} (hseed : seed.Unbroken)
    (hlines : ∀ line ∈ lines, line.Unbroken) (h : reflow seed lines = some t) : t.IsProse := by
  refine OnlyFeeds.isProse ?_ h
  have hsteps : (lines.map Step.line).foldl add (seeded seed) = lines.foldl addLine (seeded seed) :=
    List.foldl_map
  rw [← hsteps]
  refine onlyFeeds_foldl ?_ fun step hstep ↦ ?_
  · rw [text_seeded]
    exact (hseed.mono (Text.trim_subset seed)).onlyFeeds
  · obtain ⟨line, hline, rfl⟩ := List.mem_map.1 hstep
    exact (hlines line hline).onlyFeeds

end Prose

/-- The mark of an item is kept or added; it ends no line. -/
theorem Description.unbroken_step {line : Text} (h : line.Unbroken) :
    (step line).text.Unbroken := by
  have htrim : line.trim.Unbroken := h.mono (Text.trim_subset line)
  have hafter : ∀ {start rest}, line.trim.after? start = some rest → rest.Unbroken := by
    intro start rest hrest
    refine htrim.mono ?_
    rw [Text.after?_eq_some_iff.1 hrest]
    exact List.subset_append_right start rest
  rw [step]
  split
  case isTrue => exact Text.unbroken_nil
  case isFalse =>
    split
    case isTrue => exact htrim
    case isFalse =>
      split
      case h_1 item _ hitem => exact .cons rfl (.cons rfl (hafter hitem))
      case h_2 item _ hitem => exact hafter hitem
      case h_3 => exact htrim

/-- The description that unbroken lines amount to is prose. -/
theorem Description.isProse_of_ofPreamble {preamble : List Text} {t : Text}
    (hlines : ∀ line ∈ preamble, line.Unbroken) (h : ofPreamble preamble = some t) :
    t.IsProse := by
  refine OnlyFeeds.isProse ?_ h
  refine Prose.onlyFeeds_foldl (Prose.text_empty ▸ Text.onlyFeeds_nil) fun s hs ↦ ?_
  obtain ⟨line, hline, rfl⟩ := List.mem_map.1 hs
  exact (unbroken_step (hlines line hline)).onlyFeeds

/-! ## Code -/

namespace CodeBlock

theorem lines_foldl (b : CodeBlock) (lines : List Text) :
    (lines.foldl addLine b).lines = (lines.map (·.drop b.column)).reverse ++ b.lines := by
  induction lines generalizing b with
  | nil => rfl
  | cons line lines ih =>
    rw [List.foldl_cons, ih, List.map_cons, List.reverse_cons, List.append_assoc]
    rfl

/-- The code of some lines: each is cut at the column and ends with a line feed. -/
theorem code_foldl (column : Nat) (lines : List Text) :
    (lines.foldl addLine ⟨column, []⟩).code =
      lines.flatMap fun line ↦ line.drop column ++ ['\n'] := by
  rw [code, lines_foldl, List.append_nil, List.reverse_reverse, List.flatMap_map]

theorem onlyFeeds_code {column : Nat} {lines : List Text}
    (hlines : ∀ line ∈ lines, line.Unbroken) :
    (lines.foldl addLine ⟨column, []⟩).code.OnlyFeeds := by
  rw [code_foldl]
  intro c hc
  obtain ⟨line, hline, hc⟩ := List.mem_flatMap.1 hc
  have hdrop : Unbroken (line.drop column) :=
    (hlines line hline).mono (List.drop_subset column line)
  exact hdrop.onlyFeeds.append Text.onlyFeeds_feed c hc

section BlankLines

variable {t first : Text} {blanks rest : List Text}

/-- The blank lines at the beginning are cut off with as many bytes as they take. -/
theorem dropBlankLines_eq (h : t.paragraphs = blanks ++ first :: rest)
    (hblanks : ∀ line ∈ blanks, line.isBlank = true) (hfirst : first.isBlank = false) :
    dropBlankLines t = Text.join ['\n'] (first :: rest) ∧
      t = blanks.flatMap (· ++ ['\n']) ++ dropBlankLines t ∧
      Text.byteSize (blanks.flatMap (· ++ ['\n'])) = blankBytes t := by
  have hbytes : Text.byteSize (blanks.flatMap (· ++ ['\n'])) = blankBytes t := by
    rw [blankBytes, h, List.takeWhile_append_of_pos hblanks,
      List.takeWhile_cons_of_neg (Bool.eq_false_iff.1 hfirst), List.append_nil,
      Text.byteSize_flatMap_feed]
  have ht : t = blanks.flatMap (· ++ ['\n']) ++ Text.join ['\n'] (first :: rest) := by
    rw [← Text.join_append blanks (List.cons_ne_nil first rest), ← h, Text.join_paragraphs]
  have hdrop : dropBlankLines t = Text.join ['\n'] (first :: rest) := by
    rw [dropBlankLines, ← hbytes]
    conv_lhs => rw [ht]
    exact Text.dropBytes_byteSize_append _ _
  rw [hdrop]
  exact ⟨rfl, ht, hbytes⟩

/-- A text that is not blank loses lines at its beginning only, and then its first line is not
blank. -/
theorem dropBlankLines_spec (h : t.isBlank = false) :
    (dropBlankLines t).firstLine.isBlank = false ∧
      ∃ start, t = start ++ dropBlankLines t ∧ start.byteSize = blankBytes t := by
  obtain ⟨blanks, first, rest, hparagraphs, hblanks, hfirst⟩ :=
    Text.exists_paragraphs_of_not_isBlank h
  obtain ⟨hdrop, happend⟩ := dropBlankLines_eq hparagraphs hblanks hfirst
  refine ⟨?_, _, happend⟩
  have hmem : first ∈ t.paragraphs := by
    rw [hparagraphs]
    exact List.mem_append_right blanks List.mem_cons_self
  rwa [hdrop, Text.firstLine_join (Text.notMem_of_mem_paragraphs hmem) rest]

end BlankLines

/-- The code that unbroken lines amount to. -/
theorem isCode_of_cut {column : Nat} {lines : List Text} {t : Text}
    (hlines : ∀ line ∈ lines, line.Unbroken) (h : cut column lines = some t) : t.IsCode := by
  have hfeeds := @onlyFeeds_code column lines hlines
  rw [cut, finish] at h
  split at h
  case isTrue => cases h
  case isFalse hblank =>
    obtain ⟨hfirst, dropped, happend, -⟩ := dropBlankLines_spec
      ((Text.isBlank_trimEnd _).trans (Bool.eq_false_iff.2 hblank))
    rw [Option.some_inj.1 h] at happend hfirst
    have hsuffix : t <:+ (lines.foldl addLine ⟨column, []⟩).code.trimEnd := ⟨dropped, happend.symm⟩
    have hne : t ≠ [] := by
      rintro rfl
      cases hfirst
    refine ⟨hne, hfirst, ?_, hfeeds.mono (List.Subset.trans hsuffix.subset (Text.trimEnd_subset _))⟩
    rw [Text.trimEnd_eq_self_iff]
    have htrimmed := Text.trimEnd_trimEnd (lines.foldl addLine ⟨column, []⟩).code
    have hlast := Text.trimEnd_eq_self_iff.1 htrimmed
    rwa [happend, List.getLast?_append_of_ne_nil dropped hne] at hlast

end CodeBlock

end DocComment
