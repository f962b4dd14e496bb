import DocComment.Record.Parse

/-!
# Units

A unit is a documentable item as a listing gives it: its name, its kind, and its comment, if it has
one.  A documented unit has the record of the comment in place of the comment.
-/

namespace DocComment

/-- What a unit is. -/
inductive DocUnit.Kind where
  | module
  | classType
  | function
  | property
deriving DecidableEq, Repr

/-- A documentable item. -/
structure DocUnit where
  name : Text
  kind : DocUnit.Kind := .function
  comment : Option Text := none
deriving DecidableEq, Repr

/-- A documentable item whose comment has been read. -/
structure DocumentedUnit where
  name : Text
  kind : DocUnit.Kind
  record : Option Record
deriving DecidableEq, Repr

namespace DocUnit

/-- All kinds. -/
def Kind.all : List Kind := [.module, .classType, .function, .property]

/-- The word for a kind. -/
def Kind.word : Kind → Text
  | .module => "module".toList
  | .classType => "class".toList
  | .function => "function".toList
  | .property => "property".toList

/-- The kind that a word stands for. -/
def Kind.ofWord? (word : Text) : Option Kind := all.find? (·.word = word)

@[simp] theorem Kind.ofWord?_word (k : Kind) : ofWord? k.word = some k := by
  cases k <;> decide

/-- Read the comment of a unit. -/
def document (u : DocUnit) : Except Malformed DocumentedUnit :=
  (parse? u.comment).map fun record ↦ ⟨u.name, u.kind, record⟩

/-- Read the comments of all units; those with a malformed comment are left out. -/
def documentAll (units : List DocUnit) : List DocumentedUnit :=
  units.filterMap fun u ↦ u.document.toOption

end DocUnit

/-- Whether the unit is left out of public pages; a unit without a comment is not. -/
def DocumentedUnit.isHidden (u : DocumentedUnit) : Bool := u.record.any Record.isHidden

end DocComment
