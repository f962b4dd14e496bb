import DocComment.Text.LowerCase
import DocComment.Unicode.Alphanumeric

/-!
# Slugs

The name under which a page addresses a heading: lower case, without anything that is not
alphanumeric, a hyphen, an underscore or a space, and with hyphens for the spaces.
-/

namespace DocComment.Slug

open Unicode

/-- A character of a heading that leaves a trace in its slug. -/
def isKept (c : Char) : Bool := isAlphanumeric c || c == ' ' || c == '-' || c == '_'

/-- The slug of a heading. -/
def ofHeading (heading : Text) : Text :=
  (heading.toLowerCase.filter isKept).map fun c ↦ if c = ' ' then '-' else c

end DocComment.Slug
