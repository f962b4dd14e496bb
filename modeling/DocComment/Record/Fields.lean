import DocComment.Document
import DocComment.Identifier
import DocComment.Prose
import DocComment.Record.Basic
import DocComment.Tag
import DocComment.CodeBlock

/-!
# The fields of a record

Each field of a record is read off the sections of the document.  A section belongs to a field when
the field's tag accepts its header; a finisher makes an entry of the tag's argument and of the
section's body, or drops it; and the field keeps all entries, the last one, or one for each name.
No field looks at more than one section at a time.
-/

namespace DocComment

open Unicode Prose

namespace Section

/-- The argument of a tag in the header of a section. -/
def argument? (tag : Tag) (s : Section) : Option Text := tag.argument? s.header

/-- What a finisher makes of the sections of one tag, in order. -/
def entries {α : Type} (tag : Tag) (finish : Text → Section → Option α)
    (sections : List Section) : List α :=
  sections.filterMap fun s ↦ (s.argument? tag).bind (finish · s)

theorem entries_append {α : Type} (tag : Tag) (finish : Text → Section → Option α)
    (before after : List Section) :
    entries tag finish (before ++ after) =
      entries tag finish before ++ entries tag finish after :=
  List.filterMap_append

/-! ## Occurrences and texts -/

/-- Whether the tag occurs. -/
def occurs (tag : Tag) (sections : List Section) : Bool :=
  sections.any fun s ↦ (s.argument? tag).isSome

/-- The text of every occurrence that has one. -/
def texts (tag : Tag) (sections : List Section) : List Text :=
  entries tag (fun argument s ↦ reflow argument s.body) sections

/-- The text of the last occurrence, absent also when that occurrence has none. -/
def lastText (tag : Tag) (sections : List Section) : Option Text :=
  (entries tag (fun argument s ↦ some (reflow argument s.body)) sections).getLast?.join

end Section

open Section

/-! ## Single entries -/

/-- The last deprecation counts; its text, if any, is the reason. -/
def Deprecation.ofSections (sections : List Section) : Deprecation :=
  let reasons := entries .deprecated (fun argument s ↦ some (reflow argument s.body)) sections
  match reasons.getLast? with
  | none => .no
  | some none => .yes
  | some (some text) => .reason text

/-- A license, unless it has neither name nor text. -/
def License.ofParts? (name text : Option Text) : Option License :=
  if name.isNone && text.isNone then none else some ⟨name, text⟩

/-- The last license counts: its name stands on the tag's line, its text below. -/
def License.ofSections (sections : List Section) : Option License :=
  (entries .license (fun argument s ↦ some (ofParts? argument.nonBlank? (reflow [] s.body)))
    sections).getLast?.join

/-! ## Lists -/

/-- A name with an address in brackets, or a name alone when the brackets are not complete. -/
def Author.ofArgument (argument : Text) : Author :=
  let bracketed := (argument.splitFirst? (· = '[')).bind fun opened ↦
    (Text.splitFirst? (· = ']') opened.2).map fun closed ↦ (opened.1, closed.1)
  match bracketed with
  | some (name, email) => ⟨name.nonBlank?, email.nonBlank?⟩
  | none => ⟨argument.nonBlank?, none⟩

/-- Every author, from the tag's line alone. -/
def Author.ofSections (sections : List Section) : List Author :=
  entries .author (fun argument _ ↦ some (.ofArgument argument)) sections

/-- The column of a header is the number of white-space characters before it. -/
def Section.column (s : Section) : Nat := (s.header.takeWhile isWhiteSpace).length

/-- Every example that has code: its caption stands on the tag's line, its code below, cut at the
column of the tag. -/
def Example.ofSections (sections : List Section) : List Example :=
  entries .codeExample (fun argument s ↦
    (CodeBlock.cut s.column s.body).map fun code ↦ ⟨argument.nonBlank?, code⟩) sections

/-- The argument as a name, if it is one. -/
def Identifier.ofArgument? (argument : Text) : Option Text :=
  if isValid argument.trim then some argument.trim else none

/-- A list of names with one more, unless it is there already. -/
def Identifier.addNew (names : List Text) (name : Text) : List Text :=
  if name ∈ names then names else names ++ [name]

/-- The names that the item is a member of, each once, where it was first given. -/
def Identifier.membersOf (sections : List Section) : List Text :=
  (entries .memberOf (fun argument _ ↦ ofArgument? argument) sections).foldl addNew []

/-- Every namespace whose name is an identifier, described below the tag's line. -/
def Namespace.ofSections (sections : List Section) : List Namespace :=
  entries .namespaceName (fun argument s ↦
    (Identifier.ofArgument? argument).map fun name ↦ ⟨name, reflow [] s.body⟩) sections

/-- The parameter that an argument declares: its name ends at the first white space. -/
def Parameter.ofArgument (argument : Text) (body : List Text) : Parameter :=
  let rest := argument.trimStart
  let cut := (rest.splitFirst? isWhiteSpace).getD (rest, [])
  ⟨cut.1, (reflow cut.2 body).getD []⟩

/-- Parameters with one more; an earlier one of the same name keeps its place and loses its
description. -/
def Parameter.declare (ps : List Parameter) (p : Parameter) : List Parameter :=
  if ps.any (·.name = p.name) then ps.map fun q ↦ if q.name = p.name then p else q
  else ps ++ [p]

/-- The parameters, each name once. -/
def Parameter.ofSections (sections : List Section) : List Parameter :=
  (entries .param (fun argument s ↦ some (Parameter.ofArgument argument s.body)) sections).foldl
    Parameter.declare []

/-- The error that an argument names: a type in brackets first, or none.  There is no reading when
a bracket opens the argument and none closes it. -/
def Throw.ofArgument? (argument : Text) (body : List Text) : Option Throw :=
  match argument with
  | '[' :: inside => (Text.splitFirst? (· = ']') inside).map fun cut ↦
      ⟨Text.nonBlank? cut.1, reflow cut.2 body⟩
  | _ => some ⟨none, reflow argument body⟩

/-- Every error that can be read. -/
def Throw.ofSections (sections : List Section) : List Throw :=
  entries .throws (fun argument s ↦ Throw.ofArgument? argument s.body) sections

/-- Whether the section names an error that cannot be read. -/
def Section.isMalformed (s : Section) : Bool :=
  match s.argument? .throws with
  | some argument => (Throw.ofArgument? argument s.body).isNone
  | none => false

end DocComment
