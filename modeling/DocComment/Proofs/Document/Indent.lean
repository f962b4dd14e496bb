import DocComment.Proofs.Prose.Shape
import DocComment.Proofs.Record.Alike
import DocComment.Proofs.Text.Words
import DocComment.UnknownTag

/-!
# Comments with a common indentation

White space that all lines of a comment begin with changes nothing that is read off the comment
(`parse_of_split_indent`): neither the record nor the complaint with its line, nor the tags that are
unknown.

For everything but code this is so because lines are trimmed before anybody looks at them.  Code is
cut at the column of its header, which counts the indentation in characters, and each line of it has
the indentation, too, even an empty one; so the same is left of every line
(`CodeBlock.cut_indent`).  An indented section therefore has the reading that it had before
(`Section.sameReading_indent`).
-/

namespace DocComment

open Unicode

/-! ## Indented lines -/

section Blank

variable {w : Text} (hw : w.isBlank = true)
include hw

theorem Line.isTagStart_indent (line : Text) : isTagStart (w ++ line) = isTagStart line := by
  rw [isTagStart, Text.trim_append_of_isBlank hw, isTagStart]

theorem Tag.argument?_indent (tag : Tag) (line : Text) :
    tag.argument? (w ++ line) = tag.argument? line := by
  rw [argument?, Text.trim_append_of_isBlank hw, argument?]

theorem Description.step_indent (line : Text) : step (w ++ line) = step line := by
  rw [step, Text.trim_append_of_isBlank hw, step]

theorem Description.ofPreamble_indent (preamble : List Text) :
    ofPreamble (preamble.map (w ++ ·)) = ofPreamble preamble := by
  simp only [ofPreamble, List.map_map, Function.comp_def, step_indent hw]

theorem Prose.addLine_indent (p : Prose) (line : Text) :
    p.addLine (w ++ line) = p.addLine line := by
  rw [addLine, Text.isBlank_append_of_isBlank hw, Text.trim_append_of_isBlank hw, addLine]

theorem Prose.reflow_indent (seed : Text) (lines : List Text) :
    reflow seed (lines.map (w ++ ·)) = reflow seed lines := by
  simp only [reflow, List.foldl_map, addLine_indent hw]

omit hw in
/-- A column further to the right leaves the same of lines that are further to the right. -/
theorem CodeBlock.cut_indent (w : Text) (column : Nat) (lines : List Text) :
    cut (w.length + column) (lines.map (w ++ ·)) = cut column lines := by
  have hcode : ((lines.map (w ++ ·)).foldl addLine ⟨w.length + column, []⟩).code =
      (lines.foldl addLine ⟨column, []⟩).code := by
    rw [code_foldl, code_foldl, List.flatMap_map]
    simp only [List.drop_length_add_append]
  rw [cut, finish, hcode, cut, finish]

/-! ## Indented documents -/

/-- The section with all of its lines moved to the right. -/
def Section.indent (w : Text) (s : Section) : Section := ⟨w ++ s.header, s.body.map (w ++ ·)⟩

omit hw in
@[simp] theorem Section.body_indent (w : Text) (s : Section) :
    (s.indent w).body = s.body.map (w ++ ·) := rfl

/-- The document with all of its lines moved to the right. -/
def Document.indent (w : Text) (d : Document) : Document :=
  ⟨d.preamble.map (w ++ ·), d.sections.map (Section.indent w)⟩

/-- Indented lines are cut where they were cut before. -/
theorem Document.ofLines_indent (ls : List Text) :
    ofLines (ls.map (w ++ ·)) = (ofLines ls).indent w := by
  induction ls with
  | nil => rfl
  | cons line rest ih =>
    rw [List.map_cons, ofLines, ofLines, ih, Line.isTagStart_indent hw]
    split <;> rfl

namespace Section

theorem argument?_indent (tag : Tag) (s : Section) :
    (s.indent w).argument? tag = s.argument? tag :=
  Tag.argument?_indent hw tag s.header

/-- The column of a header counts the indentation. -/
theorem column_indent (s : Section) : (s.indent w).column = w.length + s.column := by
  rw [column, indent, List.takeWhile_append_of_pos (List.all_eq_true.1 hw), List.length_append,
    column]

/-- What the body amounts to does not depend on the indentation. -/
theorem sameReading_indent (s : Section) : SameReading s (s.indent w) where
  argument tag := argument?_indent hw tag s
  body _ _ _ := ⟨fun seed ↦ Prose.reflow_indent hw seed s.body, by
    rw [column_indent hw, body_indent, CodeBlock.cut_indent]⟩

omit hw in
theorem number_indent (w : Text) (start : Nat) (sections : List Section) :
    number start (sections.map (indent w)) =
      (number start sections).map (Prod.map id (indent w)) := by
  induction sections generalizing start with
  | nil => rfl
  | cons s rest ih =>
    have hlength : (s.indent w).lines.length = s.lines.length := by simp [indent, lines]
    rw [List.map_cons, number, number, List.map_cons, ih, hlength]
    rfl

end Section

namespace Document

theorem record_indent (d : Document) : (d.indent w).record = d.record :=
  record_of_sameReadings (.map (Section.sameReading_indent hw) d.sections)
    (Description.ofPreamble_indent hw d.preamble)

theorem malformed?_indent (d : Document) : (d.indent w).malformed? = d.malformed? := by
  have hlength : (d.indent w).preamble.length = d.preamble.length := List.length_map _
  rw [malformed?, numbered, hlength, indent, Section.number_indent, List.find?_map, Option.map_map,
    malformed?, numbered]
  simp only [Function.comp_def, Prod.map_snd, (Section.sameReading_indent hw _).isMalformed_eq]
  rfl

theorem parse_indent (d : Document) : (d.indent w).parse = d.parse := by
  rw [parse, malformed?_indent hw, record_indent hw, parse]

end Document

/-! ## Readings -/

namespace UnknownTag

theorem leadingToken_indent (line : Text) : leadingToken (w ++ line) = leadingToken line := by
  rw [leadingToken, Text.words_append_of_isBlank hw, leadingToken]

theorem isClaimed_indent (line : Text) : isClaimed (w ++ line) = isClaimed line := by
  simp only [isClaimed, leadingToken_indent hw, Tag.argument?_indent hw]

theorem ofLines_indent (ls : List Text) : ofLines (ls.map (w ++ ·)) = ofLines ls := by
  rw [ofLines, List.zipIdx_map, List.filterMap_map, ofLines]
  apply List.filterMap_congr
  rintro ⟨line, index⟩ -
  simp only [Function.comp_apply, Prod.map_apply, id_eq, Line.isTagStart_indent hw,
    isClaimed_indent hw, leadingToken_indent hw]

end UnknownTag

/-- A comment whose lines are those of another comment behind the same white space is read like the
other one: it has the same record or the same complaint, and the same unknown tags. -/
theorem parse_of_split_indent {a b : Text}
    (hb : Line.split b = (Line.split a).map (w ++ ·)) :
    parse b = parse a ∧
      UnknownTag.ofLines (Line.split b) = UnknownTag.ofLines (Line.split a) := by
  rw [hb, UnknownTag.ofLines_indent hw]
  refine ⟨?_, rfl⟩
  rw [parse, parse, parseLines, hb, Document.ofLines_indent hw, Document.parse_indent hw,
    parseLines]

end Blank

/-- Code with an empty line in it, behind a wide space and a narrow one. -/
theorem parse_of_split_indent_emSpace :
    let w : Text := "\u2003 ".toList
    let a := "Sum.\n @example Two\n  x\n\n   y\n@parm z".toList
    let b := Text.join ['\n'] ((Line.split a).map (w ++ ·))
    let r : Record :=
      { description := some "Sum.".toList, examples := [⟨some "Two".toList, " x\n\n  y".toList⟩] }
    w.isBlank = true ∧ Line.split b = (Line.split a).map (w ++ ·) ∧ parse b = .ok r ∧
      UnknownTag.ofLines (Line.split b) = [⟨5, "@parm".toList⟩] := by
  intro w a b r
  have hw : w.isBlank = true := by decide
  have hb : Line.split b = (Line.split a).map (w ++ ·) := by decide
  obtain ⟨hparse, hunknown⟩ := parse_of_split_indent hw hb
  refine ⟨hw, hb, ?_, ?_⟩
  · rw [hparse]
    decide
  · rw [hunknown]
    decide

end DocComment
