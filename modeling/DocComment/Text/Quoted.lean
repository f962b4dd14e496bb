import DocComment.Text
import DocComment.Unicode.Unprintable

/-!
# Quoted texts

A text between quotes in which every character can be told: the quote, the backslash and the usual
controls are escaped by a letter, and other characters without a picture of their own are shown by
their code points.
-/

namespace DocComment.Text

open Unicode

/-- How one character is shown between quotes. -/
def showChar (c : Char) : Text :=
  match c with
  | '\x00' => ['\\', '0']
  | '\t' => ['\\', 't']
  | '\n' => ['\\', 'n']
  | '\r' => ['\\', 'r']
  | '"' => ['\\', '"']
  | '\\' => ['\\', '\\']
  | c => if isUnprintable c then "\\u\x7b".toList ++ Nat.toDigits 16 c.toNat ++ ['\x7d'] else [c]

/-- A text between quotes. -/
def quoted (t : Text) : Text := '"' :: t.flatMap showChar ++ ['"']

end DocComment.Text
