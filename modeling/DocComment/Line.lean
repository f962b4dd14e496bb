import DocComment.Text

/-!
# Lines

A comment is read line by line.  A line ends at any of ten break characters, where a carriage
return directly followed by a line feed is one break; a break at the very end opens no further
line.  A line whose first character, white space apart, is `@` starts a tag, known or not, and
the lines after it up to the next such line continue it.
-/

namespace DocComment.Line

/-! ## Splitting -/

/-- The characters that end a line. -/
def breaks : List Char :=
  ['\n', '\r', '\x0b', '\x0c', '\x1c', '\x1d', '\x1e', '\u0085', '\u2028', '\u2029']

/-- A character that ends a line. -/
def isBreak (c : Char) : Bool := breaks.contains c

/-- The lines of a text, without their breaks. -/
def split : Text → List Text
  | [] => []
  | '\r' :: '\n' :: rest => [] :: split rest
  | c :: rest =>
    if isBreak c then [] :: split rest
    else match split rest with
      | [] => [[c]]
      | line :: more => (c :: line) :: more

/-! ## Tag starts -/

/-- A line that starts a tag: its first character that is not white space is `@`. -/
def isTagStart (line : Text) : Bool := line.trim.head? == some '@'

/-- The index of the first line that starts a tag, or the number of lines if none does. -/
def firstTagStart (lines : List Text) : Nat := lines.findIdx isTagStart

/-- The lines that continue the one at index `start`. -/
def continuation (lines : List Text) (start : Nat) : List Text :=
  (lines.drop (start + 1)).takeWhile (!isTagStart ·)

/-- The index after the last line that continues the one at index `start`. -/
def blockEnd (lines : List Text) (start : Nat) : Nat :=
  start + 1 + (continuation lines start).length

@[simp] theorem continuation_cons_zero (line : Text) (lines : List Text) :
    continuation (line :: lines) 0 = lines.takeWhile (!isTagStart ·) := rfl

@[simp] theorem continuation_cons_succ (line : Text) (lines : List Text) (start : Nat) :
    continuation (line :: lines) (start + 1) = continuation lines start := rfl

end DocComment.Line
