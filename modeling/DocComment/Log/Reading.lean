import DocComment.DocUnit
import DocComment.UnknownTag
import DocComment.Log.Event
import DocComment.Text.Quoted

/-!
# Events of reading comments

What is told while a comment is read: how many lines it has, which blocks were collected for which
field, and which sections were dropped.  Fields are told in alphabetical order; after a malformed
section nothing more is told than what belongs to the errors that may be thrown.
-/

namespace DocComment.Log

/-- The sections of a tag, with their lines and arguments. -/
def occurrences (tag : Tag) (sections : List (Nat × Section)) : List (Nat × Section × Text) :=
  sections.filterMap fun s ↦ (s.2.argument? tag).map fun argument ↦ (s.1, s.2, argument)

/-- A collected block, by its first line and the line after its last. -/
def collected (line : Nat) (s : Section) : Event :=
  ⟨.trace, .blocks, "collected block".toList,
    [count "start" line, count "end" (line + s.lines.length)]⟩

/-- The blocks of a tag. -/
def blocks (tag : Tag) (sections : List (Nat × Section)) : List Event :=
  (occurrences tag sections).map fun (line, s, _) ↦ collected line s

/-- A section that is dropped because its argument is no name. -/
def invalidName (tag : Tag) (line : Nat) (argument : Text) : Event :=
  ⟨.debug, .tags, "dropping ".toList ++ tag.token ++ " with invalid name".toList,
    [count "line" line, field "name" argument.trim.quoted]⟩

/-- The blocks of examples; one without code is dropped. -/
def exampleEvents (sections : List (Nat × Section)) : List Event :=
  (occurrences .codeExample sections).flatMap fun (line, s, _) ↦
    collected line s ::
      if (CodeBlock.cut s.column s.body).isSome then []
      else [⟨.debug, .tags, "dropping @example without code".toList, [count "line" line]⟩]

/-- The members' scopes that are dropped. -/
def memberEvents (sections : List (Nat × Section)) : List Event :=
  (occurrences .memberOf sections).flatMap fun (line, _, argument) ↦
    if (Identifier.ofArgument? argument).isSome then [] else [invalidName .memberOf line argument]

/-- The blocks of namespaces; one without a proper name is dropped unread. -/
def namespaceEvents (sections : List (Nat × Section)) : List Event :=
  (occurrences .namespaceName sections).map fun (line, s, argument) ↦
    if (Identifier.ofArgument? argument).isSome then collected line s
    else invalidName .namespaceName line argument

/-- The blocks of errors that may be thrown; one that cannot be read has none. -/
def throwEvents (sections : List (Nat × Section)) : List Event :=
  blocks .throws (sections.filter (!·.2.isMalformed))

/-- What is told while a document is read. -/
def ofDocument (d : Document) : List Event :=
  let s := d.numbered
  ⟨.trace, .comments, "parsing doc-comment".toList, [count "lines" d.lines.length]⟩ ::
    blocks .copyright s ++ blocks .deprecated s ++ exampleEvents s ++ blocks .license s ++
    memberEvents s ++ namespaceEvents s ++ blocks .param s ++ blocks .returns s ++
    blocks .since s ++ throwEvents s ++
    if d.malformed?.isSome then [] else blocks .todo s ++ blocks .version s

/-- What is told while the comment of a unit is read. -/
def ofUnit (u : DocUnit) : List Event :=
  (u.comment.map fun c ↦ ofDocument (Document.ofText c)).getD [] ++
    match u.document with
    | .ok _ => []
    | .error e =>
      [⟨.warn, .units, "skipping unit".toList, [field "unit" u.name, field "err" e.message]⟩]

/-- The warnings about a comment's unknown tags, for a unit if it belongs to one. -/
def ofUnknownTags (unit : Option Text) (comment : Text) : List Event :=
  (UnknownTag.ofLines (Line.split comment)).map fun tag ↦
    ⟨.warn, .program, "unknown tag".toList, (unit.map (field "unit")).toList ++
      [count "line" tag.line, field "token" tag.token]⟩

end DocComment.Log
