import DocComment.Text

/-!
# Records

Everything that one comment says.  A list is empty when its tag never occurred or none of its
occurrences said anything; an optional text that is present is not blank.
-/

namespace DocComment

/-- Who wrote the item. -/
structure Author where
  name : Option Text
  email : Option Text
deriving DecidableEq, Repr

/-- Whether the item is deprecated, and why. -/
inductive Deprecation where
  | no
  | yes
  | reason (text : Text)
deriving DecidableEq, Repr

/-- A piece of sample code. -/
structure Example where
  caption : Option Text
  code : Text
deriving DecidableEq, Repr

/-- A license, by its name, its text or both. -/
structure License where
  name : Option Text
  text : Option Text
deriving DecidableEq, Repr

/-- A namespace that the item declares. -/
structure Namespace where
  name : Text
  description : Option Text
deriving DecidableEq, Repr

/-- A parameter of the item; its description may be empty. -/
structure Parameter where
  name : Text
  description : Text
deriving DecidableEq, Repr

/-- An error that the item may throw: its bracketed type, and when it is thrown. -/
structure Throw where
  type : Option Text
  description : Option Text
deriving DecidableEq, Repr

/-- Everything that one comment says. -/
structure Record where
  description : Option Text := none
  authors : List Author := []
  copyright : List Text := []
  deprecated : Deprecation := .no
  examples : List Example := []
  isGlobal : Bool := false
  isIgnored : Bool := false
  license : Option License := none
  memberOf : List Text := []
  namespaces : List Namespace := []
  parameters : List Parameter := []
  isPrivate : Bool := false
  returns : Option Text := none
  since : Option Text := none
  throws : List Throw := []
  todo : List Text := []
  version : Option Text := none
deriving DecidableEq, Repr

namespace Deprecation

/-- Whether there is any sign of deprecation. -/
def isDeprecated : Deprecation → Bool
  | no => false
  | yes | reason _ => true

/-- The explanation, if one was given. -/
def reason? : Deprecation → Option Text
  | no | yes => none
  | reason text => some text

end Deprecation

namespace Record

/-- Whether the item is left out of public pages. -/
def isHidden (r : Record) : Bool := r.isPrivate || r.isIgnored

/-- The description of the parameter with a given name. -/
def parameter? (r : Record) (name : Text) : Option Text :=
  (r.parameters.find? (·.name = name)).map Parameter.description

end Record

end DocComment
