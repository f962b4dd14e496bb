import DocComment.Json.Basic
import DocComment.Json.Token

/-!
# Reading JSON

The reader goes through the tokens once.  It keeps the containers that wait for one of their
elements or members, the innermost first, and what may come next; a value that is complete goes
into the innermost container.  At most 127 containers may be open at a time.
-/

namespace DocComment.Json

/-- A container that waits for a value, with what it already holds, the latest first. -/
inductive Frame where
  | element (before : List Json)
  | member (before : List (Text × Json)) (name : Text)
deriving Repr

/-- What may come next. -/
inductive Expected where
  | value
  /-- The first element of an array, or its end. -/
  | firstElement
  /-- A comma and an element, or the end of the array. -/
  | nextElement (before : List Json)
  /-- The first name of an object, or its end. -/
  | firstName
  | name (before : List (Text × Json))
  | colon (before : List (Text × Json)) (name : Text)
  /-- A comma and a member, or the end of the object. -/
  | nextMember (before : List (Text × Json))
deriving Repr

/-- Where the reader stands after a token. -/
inductive Progress where
  | done (v : Json)
  | more (expected : Expected) (waiting : List Frame)
deriving Repr

/-- The most containers that may be open at a time. -/
def maxDepth : Nat := 127

/-- A complete value goes into the innermost container. -/
def place (v : Json) : List Frame → Progress
  | [] => .done v
  | .element before :: waiting => .more (.nextElement (v :: before)) waiting
  | .member before name :: waiting => .more (.nextMember ((name, v) :: before)) waiting

/-- A token that begins a value. -/
def begin? (waiting : List Frame) : Token → Option Progress
  | .null => some (place .null waiting)
  | .bool b => some (place (.bool b) waiting)
  | .number literal => some (place (.number literal) waiting)
  | .string t => some (place (.string t) waiting)
  | .openArray => if waiting.length < maxDepth then some (.more .firstElement waiting) else none
  | .openObject => if waiting.length < maxDepth then some (.more .firstName waiting) else none
  | _ => none

/-- The reader takes one token. -/
def step? (expected : Expected) (waiting : List Frame) (token : Token) : Option Progress :=
  match expected, token with
  | .value, token => begin? waiting token
  | .firstElement, .closeArray => some (place (.array []) waiting)
  | .firstElement, token => begin? (.element [] :: waiting) token
  | .nextElement before, .closeArray => some (place (.array before.reverse) waiting)
  | .nextElement before, .comma => some (.more .value (.element before :: waiting))
  | .firstName, .closeObject => some (place (.object []) waiting)
  | .firstName, .string name => some (.more (.colon [] name) waiting)
  | .name before, .string name => some (.more (.colon before name) waiting)
  | .colon before name, .colon => some (.more .value (.member before name :: waiting))
  | .nextMember before, .closeObject => some (place (.object before.reverse) waiting)
  | .nextMember before, .comma => some (.more (.name before) waiting)
  | _, _ => none

/-- The reader takes tokens until a value is complete: the value, and the tokens after it. -/
def run? (expected : Expected) (waiting : List Frame) : List Token → Option (Json × List Token)
  | [] => none
  | token :: rest =>
    match step? expected waiting token with
    | none => none
    | some (.done v) => some (v, rest)
    | some (.more expected waiting) => run? expected waiting rest

/-- The value that a text begins with, and the tokens after it. -/
def read? (t : Text) : Option (Json × List Token) := run? .value [] (Token.scan t)

end DocComment.Json
