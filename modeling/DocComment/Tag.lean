import DocComment.Text

/-!
# Tags and their markers

There are seventeen tags.  A line is an occurrence of a tag when the tag's marker accepts the
trimmed line; what follows the marker is the tag's argument.  Matching is case-sensitive.
-/

namespace DocComment

/-- The tags with a meaning. -/
inductive Tag where
  | author
  | copyright
  | deprecated
  | codeExample
  | globalScope
  | ignored
  | license
  | memberOf
  | namespaceName
  | param
  | privateScope
  /-- Accepted so that nobody takes it for a misspelling: what is not private is public anyway. -/
  | publicScope
  | returns
  | since
  | throws
  | todo
  | version
deriving DecidableEq, Repr

/-- How much of a line a marker has to cover. -/
inductive Marker.Shape where
  /-- The token is the whole line. -/
  | wholeLine
  /-- The token is followed by a space. -/
  | spaced
  /-- The line begins with the token. -/
  | bare
deriving DecidableEq, Repr

/-- What makes a trimmed line an occurrence of a tag. -/
structure Marker where
  shape : Marker.Shape
  token : Text
deriving DecidableEq, Repr

namespace Marker

/-- The text after the marker, if the marker accepts the trimmed line. -/
def argument? (m : Marker) (trimmed : Text) : Option Text :=
  match m.shape with
  | .wholeLine => if trimmed = m.token then some [] else none
  | .spaced => trimmed.after? (m.token ++ [' '])
  | .bare => trimmed.after? m.token

end Marker

namespace Tag

/-- All tags, by the alphabet. -/
def all : List Tag :=
  [.author, .copyright, .deprecated, .codeExample, .globalScope, .ignored, .license, .memberOf,
   .namespaceName, .param, .privateScope, .publicScope, .returns, .since, .throws, .todo, .version]

theorem mem_all (tag : Tag) : tag ∈ all := by
  cases tag <;> decide

/-- The word that stands for a tag in a comment. -/
def token : Tag → Text
  | author => "@author".toList
  | copyright => "@copyright".toList
  | deprecated => "@deprecated".toList
  | codeExample => "@example".toList
  | globalScope => "@global".toList
  | ignored => "@ignore".toList
  | license => "@license".toList
  | memberOf => "@memberof".toList
  | namespaceName => "@namespace".toList
  | param => "@param".toList
  | privateScope => "@private".toList
  | publicScope => "@public".toList
  | returns => "@returns".toList
  | since => "@since".toList
  | throws => "@throws".toList
  | todo => "@todo".toList
  | version => "@version".toList

/-- The tag that a word stands for. -/
def ofToken? (word : Text) : Option Tag := all.find? (·.token = word)

@[simp] theorem ofToken?_token (tag : Tag) : ofToken? tag.token = some tag := by
  cases tag <;> decide

/-- How much of a line the tag's word has to cover. -/
def shape : Tag → Marker.Shape
  | globalScope | ignored | privateScope | publicScope => .wholeLine
  | since | version | deprecated | license | codeExample => .bare
  | author | copyright | memberOf | namespaceName | param | returns | throws | todo => .spaced

/-- What makes a trimmed line an occurrence of the tag. -/
def marker (tag : Tag) : Marker := ⟨tag.shape, tag.token⟩

/-- The tag's argument on a line, if the line is an occurrence of the tag. -/
def argument? (tag : Tag) (line : Text) : Option Text := tag.marker.argument? line.trim

end Tag

end DocComment
