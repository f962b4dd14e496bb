import DocComment.Text
import DocComment.Unicode.Cased
import DocComment.Unicode.LowerCase

/-!
# Lower-case texts

Every character goes to its own lower-case form, except the capital sigma, which becomes the final
small sigma at the end of a word: when, case-ignorable characters skipped, a cased character comes
before it and none comes after it.
-/

namespace DocComment.Text

open Unicode

/-- Whether the next character that is not case-ignorable is cased. -/
def meetsCased (t : Text) : Bool := ((t.dropWhile isCaseIgnorable).head?.map isCased).getD false

/-- The lower-case form of a character between the text before it, read backwards, and the text
after it. -/
def lowerCaseBetween (before : Text) (c : Char) (after : Text) : Text :=
  if c = 'Σ' then [if meetsCased before && !meetsCased after then 'ς' else 'σ']
  else lowerCase c

/-- The lower-case form of what follows a text that is read backwards. -/
def lowerCaseFrom (before : Text) : Text → Text
  | [] => []
  | c :: after => lowerCaseBetween before c after ++ lowerCaseFrom (c :: before) after

/-- The lower-case form of a text. -/
def toLowerCase (t : Text) : Text := lowerCaseFrom [] t

end DocComment.Text
