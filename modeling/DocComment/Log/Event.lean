import DocComment.Text

/-!
# Log events

What happens on a run is told in events, each of a level, by some part of the program, with a
message and named values.
-/

namespace DocComment.Log

/-- How important an event is. -/
inductive Level where
  | error
  | warn
  | info
  | debug
  | trace
deriving DecidableEq, Repr

namespace Level

/-- All levels, the most important first. -/
def all : List Level := [.error, .warn, .info, .debug, .trace]

/-- The place of a level, counted from the most important one; zero is left for silence. -/
def rank : Level → Nat
  | error => 1
  | warn => 2
  | info => 3
  | debug => 4
  | trace => 5

/-- The word for a level. -/
def word : Level → Text
  | error => "ERROR".toList
  | warn => "WARN".toList
  | info => "INFO".toList
  | debug => "DEBUG".toList
  | trace => "TRACE".toList

end Level

/-- The part of the program that tells an event. -/
inductive Part where
  /-- What the program does with its arguments and files. -/
  | program
  /-- Listings and their units. -/
  | units
  /-- Comments as a whole. -/
  | comments
  /-- The blocks of a comment. -/
  | blocks
  /-- The tags of a comment. -/
  | tags
deriving DecidableEq, Repr

/-- The name of a part; that of a part within another one begins with the other's name. -/
def Part.name : Part → Text
  | program => "tagdoc".toList
  | units => "tagdoc::unit".toList
  | comments => "tagdoc::parser".toList
  | blocks => "tagdoc::parser::block".toList
  | tags => "tagdoc::parser::tags".toList

/-- An event with its named values. -/
structure Event where
  level : Level
  part : Part
  message : Text
  fields : List (Text × Text) := []
deriving DecidableEq, Repr

/-- A named value. -/
def field (name : String) (value : Text) : Text × Text := (name.toList, value)

/-- A named number. -/
def count (name : String) (value : Nat) : Text × Text := (name.toList, Text.ofNat value)

namespace Event

/-- The names of the values of an event; its message has one, too. -/
def fieldNames (e : Event) : List Text := "message".toList :: e.fields.map Prod.fst

/-- How a character of a message is written: a control that a terminal would obey is shown by its
code point. -/
def showControl (c : Char) : Text :=
  if ['\x07', '\x08', '\x0c', '\x1b', '\x7f'].contains c then
    ['\\', 'x'] ++ (if c.toNat < 16 then ['0'] else []) ++ Nat.toDigits 16 c.toNat
  else if 0x80 ≤ c.toNat && c.toNat ≤ 0x9F then
    "\\u\x7b".toList ++ Nat.toDigits 16 c.toNat ++ ['\x7d']
  else [c]

/-- What is written for an event. -/
def line (e : Event) : Text :=
  e.level.word ++ ' ' :: e.message.flatMap showControl ++
    e.fields.flatMap fun f ↦ ' ' :: f.1 ++ '=' :: f.2

end Event

end DocComment.Log
