import DocComment.Unicode.Alphabetic
import DocComment.Unicode.Number

/-!
# Alphanumeric characters

A character is alphanumeric when it is alphabetic or a number, as of Unicode 17.  The numbers that
Unicode 17 added to those of Unicode 16 are listed here.
-/

namespace DocComment.Unicode

/-- The runs of numbers that Unicode 16 does not have. -/
def furtherNumberRanges : RangeTable :=
  [(0x11DE0, 0x11DE9)]

/-- Alphabetic or a number. -/
def isAlphanumeric (c : Char) : Bool :=
  isAlphabetic c || isNumber c || furtherNumberRanges.contains c

end DocComment.Unicode
