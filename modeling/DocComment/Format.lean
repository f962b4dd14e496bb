import DocComment.Markdown
import DocComment.Record.Json

/-!
# Output formats

A page of units, or a single record, comes out as Markdown or as JSON.  The JSON form keeps units
that Markdown leaves out, and ends with a line feed.
-/

namespace DocComment

/-- An output format. -/
inductive Format where
  | markdown
  | json
deriving DecidableEq, Repr

namespace Format

/-- The format with a given name. -/
def ofName? (name : Text) : Option Format :=
  if name = "markdown".toList ∨ name = "md".toList then some .markdown
  else if name = "json".toList then some .json
  else none

/-- What is said about a name that is not a format's. -/
def unknownMessage (name : Text) : Text :=
  "unknown format: ".toList ++ name ++ ". Use markdown or json".toList

/-- The extension of a page's file. -/
def extension : Format → Text
  | markdown => "md".toList
  | json => "json".toList

/-- The page of some units. -/
def render (f : Format) (o : Markdown.Options) (units : List DocumentedUnit) : Text :=
  match f with
  | markdown => Markdown.page o units
  | json => Json.toText (.array (units.map DocumentedUnit.toJson))

/-- A record by itself. -/
def renderRecord (f : Format) (o : Markdown.Options) (r : Record) : Text :=
  match f with
  | markdown => Markdown.body o r
  | json => Json.toText r.toJson

end Format

end DocComment
