import DocComment.Text
import DocComment.Unicode.Letter
import DocComment.Unicode.Number

/-!
# Identifiers

The names that a member or a namespace may have: a letter or underscore, then letters, decimal
digits and underscores, of any script.
-/

namespace DocComment.Identifier

open Unicode

/-- A character that an identifier may begin with. -/
def isStart (c : Char) : Bool := isLetter c || c == '_'

/-- A character that an identifier may go on with. -/
def isPart (c : Char) : Bool := isStart c || isDecimalDigit c

/-- Whether a text is an identifier. -/
def isValid : Text → Bool
  | [] => false
  | c :: rest => isStart c && rest.all isPart

end DocComment.Identifier
