import DocComment.Text

/-!
# JSON values

Values in full: an object is the list of its members in the order in which they were written,
repeated names included, and a number is the text that it was written with.
-/

namespace DocComment

/-- A JSON value. -/
inductive Json where
  | null
  | bool (b : Bool)
  | number (literal : Text)
  | string (t : Text)
  | array (elements : List Json)
  | object (members : List (Text × Json))
deriving Repr, Inhabited

namespace Json

/-- A text, or null in its place. -/
def ofText? : Option Text → Json
  | none => null
  | some t => string t

/-- The list of some texts. -/
def ofTexts (ts : List Text) : Json := array (ts.map string)

end Json

end DocComment
