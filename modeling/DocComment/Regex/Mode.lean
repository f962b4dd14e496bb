import DocComment.Text

/-!
# Modes of regular expressions

A regular expression is read in a mode, which its flags change for the rest of a group.  Of the
flags only two bear on which texts are regular expressions: one lets white space and comments
stand anywhere, and one chooses between the classes of Unicode and those of ASCII.
-/

namespace DocComment.Regex

open Unicode

/-- How a part of a regular expression is read. -/
structure Mode where
  /-- White space and comments, each from a number sign to the end of the line, do not count. -/
  isSpaced : Bool := false
  /-- Classes of characters and edges of words are those of Unicode, not those of ASCII. -/
  isUnicode : Bool := true
deriving DecidableEq, Repr

/-! ## White space and comments -/

/-- The text without the white space and the comments that it begins with, given whether it begins
inside a comment. -/
def skipSpace : Bool → Text → Text
  | _, [] => []
  | true, c :: rest => skipSpace (c ≠ '\n') rest
  | false, c :: rest =>
    if isWhiteSpace c then skipSpace false rest
    else if c = '#' then skipSpace true rest
    else c :: rest

/-- The text from what counts in a mode on. -/
def Mode.skip (m : Mode) (t : Text) : Text := if m.isSpaced then skipSpace false t else t

/-- The character that a hyphen between brackets is judged by: the next one, or where white space
does not count the next one behind white space, one number sign and white space. -/
def Mode.peek? (m : Mode) (t : Text) : Option Char :=
  if m.isSpaced then
    let behind := match t.dropWhile isWhiteSpace with
      | '#' :: rest => rest.dropWhile isWhiteSpace
      | rest => rest
    behind.head?.or t.head?
  else t.head?

/-! ## Flags -/

/-- The flags to set and the flags to clear, each by its letter. -/
structure FlagChange where
  set : Text := []
  clear : Text := []
deriving DecidableEq, Repr

/-- The change that a text asks for.  The flags to clear follow a hyphen; no flag is named twice. -/
def FlagChange.ofText? (t : Text) : Option FlagChange :=
  if t.all ("imsUuRx-".toList.contains ·) && t.all (t.count · = 1) && t.getLast? ≠ some '-' then
    match t.splitFirst? (· = '-') with
    | some (set, clear) => some { set, clear }
    | none => some { set := t }
  else none

/-- The mode after a change of flags. -/
def Mode.changed (m : Mode) (f : FlagChange) : Mode where
  isSpaced := (m.isSpaced || f.set.contains 'x') && !f.clear.contains 'x'
  isUnicode := (m.isUnicode || f.set.contains 'u') && !f.clear.contains 'u'

end DocComment.Regex
