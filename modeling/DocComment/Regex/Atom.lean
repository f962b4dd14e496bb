import DocComment.Regex.Mode

/-!
# Atoms of regular expressions

The smallest parts of a regular expression: characters, classes that have a name, and assertions
about a position.  Which of them may stand where depends on the mode, since without Unicode an
expression has to keep to ASCII wherever it would otherwise match half a character.
-/

namespace DocComment.Regex

open Unicode

/-- The smallest part of a regular expression. -/
inductive Atom where
  | char (c : Char)
  /-- A character that is written as a byte. -/
  | byte (c : Char)
  /-- Digits, white space or word characters, or all other characters. -/
  | kind (isNegated : Bool)
  /-- A general category. -/
  | category
  | anyChar
  /-- The beginning or the end of a line, or of the text. -/
  | edge
  /-- The beginning or the end of a word, or the lack of one. -/
  | wordEdge
deriving DecidableEq, Repr

namespace Atom

/-- The character that an atom stands for. -/
def char? : Atom → Option Char
  | char c | byte c => some c
  | _ => none

/-- Whether a class in brackets may have the atom as a member. -/
def isMember (m : Mode) : Atom → Bool
  | char c | byte c => m.isUnicode || c.toNat < 0x80
  | kind isNegated => m.isUnicode || !isNegated
  | category => m.isUnicode
  | anyChar | edge | wordEdge => false

/-- Whether the atom may stand by itself.  An edge of a word may not depend on more than the bytes
next to it. -/
def isAllowed (m : Mode) : Atom → Bool
  | char _ | edge => true
  | anyChar => m.isUnicode
  | wordEdge => !m.isUnicode
  | a => a.isMember m

end Atom

/-! ## Escapes -/

/-- The value of a number of hexadecimal digits that a text begins with, to be read after those of
a given value, and the rest. -/
def hexDigits? (m : Mode) : Nat → Nat → Text → Option (Nat × Text)
  | 0, value, t => some (value, t)
  | count + 1, value, t =>
    match m.skip t with
    | [] => none
    | c :: rest => (Text.hexValue? c).bind fun digit ↦ hexDigits? m count (value * 16 + digit) rest

/-- The character whose code point a text begins with in so many hexadecimal digits, and the
rest. -/
def codePoint? (m : Mode) (count : Nat) (t : Text) : Option (Char × Text) :=
  (hexDigits? m count 0 t).bind fun (n, rest) ↦
    if n < 0xD800 || 0xDFFF < n && n < 0x110000 then some (Char.ofNat n, rest) else none

/-- The general category whose letter a text begins with, and the rest.  A name in braces is never
closed. -/
def category? (m : Mode) (t : Text) : Option (Atom × Text) :=
  match m.skip t with
  | c :: rest => if "CLMNPSZ".toList.contains c.toUpper then some (.category, rest) else none
  | [] => none

/-- What a character after a backslash stands for when it needs no more.  Letters and digits without
a meaning are no escapes. -/
def simpleEscape? (c : Char) : Option Atom :=
  match c with
  | 'd' | 's' | 'w' => some (.kind false)
  | 'D' | 'S' | 'W' => some (.kind true)
  | 'A' | 'z' => some .edge
  | 'b' | 'B' | '<' | '>' => some .wordEdge
  | 'a' => some (.char '\x07')
  | 'f' => some (.char '\x0c')
  | 't' => some (.char '\t')
  | 'n' => some (.char '\n')
  | 'r' => some (.char '\r')
  | 'v' => some (.char '\x0b')
  | c => if c.toNat < 0x80 && !c.isAlphanum then some (.char c) else none

/-- What the text after a backslash begins with, and the rest. -/
def escape? (m : Mode) : Text → Option (Atom × Text)
  | [] => none
  | 'x' :: rest => (codePoint? m 2 rest).map fun (c, rest) ↦ (.byte c, rest)
  | 'u' :: rest => (codePoint? m 4 rest).map fun (c, rest) ↦ (.char c, rest)
  | 'U' :: rest => (codePoint? m 8 rest).map fun (c, rest) ↦ (.char c, rest)
  | 'p' :: rest | 'P' :: rest => category? m rest
  | c :: rest => (simpleEscape? c).map (·, rest)

/-- What a text begins with outside of brackets, and the rest. -/
def atom? (m : Mode) : Text → Option (Atom × Text)
  | [] => none
  | '\\' :: rest => escape? m rest
  | '.' :: rest => some (.anyChar, rest)
  | '^' :: rest | '$' :: rest => some (.edge, rest)
  | c :: rest => some (.char c, rest)

end DocComment.Regex
