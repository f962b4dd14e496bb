import DocComment.Line

/-!
# Documents

The lines of a comment fall into the preamble, which is everything before the first tag start, and
one section for each tag start.  Nothing is lost: `lines_ofLines` reads the lines back.
-/

namespace DocComment

/-- A line that starts a tag, with the lines that continue it. -/
structure Section where
  header : Text
  body : List Text
deriving DecidableEq, Repr

namespace Section

/-- All lines of a section. -/
def lines (s : Section) : List Text := s.header :: s.body

/-- Sections that follow one another, each with the index of its header line. -/
def number (start : Nat) : List Section → List (Nat × Section)
  | [] => []
  | s :: rest => (start, s) :: number (start + s.lines.length) rest

end Section

/-- A comment cut at its tag starts. -/
structure Document where
  preamble : List Text
  sections : List Section
deriving DecidableEq, Repr

namespace Document

/-- Cut a list of lines at its tag starts. -/
def ofLines : List Text → Document
  | [] => ⟨[], []⟩
  | line :: rest =>
    let d := ofLines rest
    if Line.isTagStart line then ⟨[], ⟨line, d.preamble⟩ :: d.sections⟩
    else ⟨line :: d.preamble, d.sections⟩

/-- The document that a text is. -/
def ofText (t : Text) : Document := ofLines (Line.split t)

/-- The lines of a document, in order. -/
def lines (d : Document) : List Text := d.preamble ++ d.sections.flatMap Section.lines

/-- The sections with the indices of their header lines. -/
def numbered (d : Document) : List (Nat × Section) :=
  Section.number d.preamble.length d.sections

/-- Cutting keeps every line, in order. -/
@[simp] theorem lines_ofLines (ls : List Text) : (ofLines ls).lines = ls := by
  induction ls with
  | nil => rfl
  | cons line rest ih =>
    rw [ofLines]
    split
    · simpa [lines, Section.lines] using ih
    · simpa [lines] using ih

/-- The preamble is what comes before the first tag start. -/
theorem preamble_ofLines (ls : List Text) :
    (ofLines ls).preamble = ls.takeWhile (!Line.isTagStart ·) := by
  induction ls with
  | nil => rfl
  | cons line rest ih => by_cases h : Line.isTagStart line <;> simp [ofLines, h, ih]

end Document

end DocComment
