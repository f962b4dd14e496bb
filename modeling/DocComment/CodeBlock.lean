import DocComment.Text

/-!
# Code blocks

Code keeps its lines as they are, except that everything left of a fixed column is cut off.  Blank
lines at the beginning and white space at the end are dropped.
-/

namespace DocComment

/-- Code under collection; the column counts characters. -/
structure CodeBlock where
  column : Nat
  /-- The lines so far, cut at the column, the latest first. -/
  lines : List Text := []
deriving DecidableEq, Repr

namespace CodeBlock

/-- Take in a line. -/
def addLine (b : CodeBlock) (line : Text) : CodeBlock :=
  { b with lines := line.drop b.column :: b.lines }

/-- The code so far; each line ends with a line feed. -/
def code (b : CodeBlock) : Text := b.lines.reverse.flatMap (· ++ ['\n'])

/-- How many bytes the blank lines at the beginning of a text take, with their line feeds. -/
def blankBytes (t : Text) : Nat :=
  (t.paragraphs.takeWhile Text.isBlank).foldl (fun size line ↦ size + (line.byteSize + 1)) 0

/-- The text without the blank lines it begins with. -/
def dropBlankLines (t : Text) : Text := t.dropBytes (blankBytes t)

/-- The collected code, absent when nothing but white space was collected. -/
def finish (b : CodeBlock) : Option Text :=
  if b.code.isBlank then none else some (dropBlankLines b.code.trimEnd)

/-- The code that some lines amount to, when they are cut at a column. -/
def cut (column : Nat) (lines : List Text) : Option Text :=
  (lines.foldl addLine ⟨column, []⟩).finish

end CodeBlock

end DocComment
