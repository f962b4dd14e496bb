import DocComment.Tag

/-!
# Malformed tags

The one thing that makes a comment unreadable: a tag whose argument cannot be split without doubt.
-/

namespace DocComment

/-- What is wrong with an argument. -/
inductive Fault where
  /-- The bracket around an error type is opened and never closed. -/
  | unclosedType
deriving DecidableEq, Repr

/-- A tag with an argument that cannot be read, and the index of its line. -/
structure Malformed where
  tag : Tag
  line : Nat
  fault : Fault
deriving DecidableEq, Repr

/-- The fault in words. -/
def Fault.reason : Fault → Text
  | .unclosedType => "error type is missing its closing `]`".toList

/-- The whole complaint in words. -/
def Malformed.message (e : Malformed) : Text :=
  "malformed ".toList ++ e.tag.token ++ " tag on line ".toList ++ Text.ofNat e.line ++
    ": ".toList ++ e.fault.reason

end DocComment
