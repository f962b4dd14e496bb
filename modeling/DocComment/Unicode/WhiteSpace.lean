import DocComment.Unicode.Range

/-!
# White space

The property `White_Space`: the controls from the tab to the carriage return, the next-line
control, the spaces, and the line and paragraph separators.  The information separators
U+001C to U+001F and the zero-width space do not have it.
-/

namespace DocComment.Unicode

/-- The runs of white-space code points. -/
def whiteSpaceRanges : RangeTable :=
  [(0x0009, 0x000D), (0x0020, 0x0020), (0x0085, 0x0085), (0x00A0, 0x00A0), (0x1680, 0x1680),
   (0x2000, 0x200A), (0x2028, 0x2029), (0x202F, 0x202F), (0x205F, 0x205F), (0x3000, 0x3000)]

/-- A white-space character. -/
def isWhiteSpace (c : Char) : Bool := whiteSpaceRanges.contains c

end DocComment.Unicode
