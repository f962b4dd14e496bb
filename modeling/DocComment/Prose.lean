import DocComment.Text

/-!
# Prose

Running text collected from several lines.  Consecutive lines become one run of words, each blank
line after some text adds one line feed, and an item stands on a line of its own.  The result is
trimmed, and absent when nothing but white space was collected.
-/

namespace DocComment

/-- Prose under collection. -/
structure Prose where
  /-- The text so far, its last character first. -/
  reversed : Text := []
deriving DecidableEq, Repr

namespace Prose

/-- The text so far. -/
def text (p : Prose) : Text := p.reversed.reverse

/-- What is added to prose in one go. -/
inductive Step where
  /-- A line of the comment: trimmed words, or a paragraph break if it is blank. -/
  | line (t : Text)
  /-- Words that go on in the same paragraph. -/
  | words (t : Text)
  /-- Words that begin a line of their own. -/
  | item (t : Text)
  | paragraphBreak
deriving DecidableEq, Repr

/-- Prose that begins with the text found on the tag's own line. -/
def seeded (seed : Text) : Prose := ⟨seed.trim.reverse⟩

/-- Whether a separator is left out: at the beginning, and after a line feed. -/
def isAtStart (p : Prose) : Bool := p.reversed.head?.all (· == '\n')

/-- Add a text after a separator. -/
def addAfter (p : Prose) (separator : Char) (t : Text) : Prose :=
  ⟨t.reverse ++ if p.isAtStart then p.reversed else separator :: p.reversed⟩

/-- One line feed, unless nothing has been collected. -/
def breakParagraph (p : Prose) : Prose :=
  if p.reversed.isEmpty then p else ⟨'\n' :: p.reversed⟩

/-- Go on in the same paragraph. -/
def addWords (p : Prose) (t : Text) : Prose := p.addAfter ' ' t

/-- Begin a line; a line feed that is already there is enough. -/
def addItem (p : Prose) (t : Text) : Prose := p.addAfter '\n' t

/-- Take in a line of the comment. -/
def addLine (p : Prose) (line : Text) : Prose :=
  if line.isBlank then p.breakParagraph else p.addWords line.trim

/-- Take in one step. -/
def add (p : Prose) : Step → Prose
  | .line t => p.addLine t
  | .words t => p.addWords t
  | .item t => p.addItem t
  | .paragraphBreak => p.breakParagraph

/-- The collected text, trimmed. -/
def finish (p : Prose) : Option Text := p.text.nonBlank?

/-- The text that a seed and the lines after it amount to. -/
def reflow (seed : Text) (lines : List Text) : Option Text :=
  (lines.foldl addLine (seeded seed)).finish

/-! ## The collected text -/

@[simp] theorem text_empty : text {} = [] := rfl

@[simp] theorem text_seeded (seed : Text) : (seeded seed).text = seed.trim := List.reverse_reverse _

theorem isAtStart_iff (p : Prose) : p.isAtStart = true ↔ ∀ c ∈ p.text.getLast?, c = '\n' := by
  simp [isAtStart, text, Option.all_eq_true]

theorem text_addAfter (p : Prose) (separator : Char) (t : Text) :
    (p.addAfter separator t).text =
      (if p.isAtStart then p.text else p.text ++ [separator]) ++ t := by
  simp only [addAfter, text]
  split <;> simp

theorem text_breakParagraph (p : Prose) :
    p.breakParagraph.text = if p.text = [] then [] else p.text ++ ['\n'] := by
  simp only [breakParagraph, text, List.isEmpty_iff, List.reverse_eq_nil_iff]
  split <;> simp_all

@[simp] theorem reflow_nil (seed : Text) : reflow seed [] = seed.trim.nonBlank? := by
  simp [reflow, finish]

end Prose

end DocComment
