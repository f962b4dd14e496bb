import DocComment.Line
import DocComment.Tag

/-!
# Unknown tags

A line that starts a tag but means nothing is most likely misspelt.  A line means something when
some marker accepts it, or when its first word is the word of a tag.
-/

namespace DocComment

/-- A line that starts no known tag: its index and its first word. -/
structure UnknownTag where
  line : Nat
  token : Text
deriving DecidableEq, Repr

namespace UnknownTag

/-- The first word of a line. -/
def leadingToken (line : Text) : Text := line.words.headD []

/-- A line that some tag claims, by its marker or at least by its word. -/
def isClaimed (line : Text) : Bool :=
  (Tag.ofToken? (leadingToken line)).isSome || Tag.all.any fun tag ↦ (tag.argument? line).isSome

/-- The tag starts that no tag claims. -/
def ofLines (lines : List Text) : List UnknownTag :=
  lines.zipIdx.filterMap fun (line, index) ↦
    if Line.isTagStart line && !isClaimed line then some ⟨index, leadingToken line⟩ else none

end UnknownTag

end DocComment
