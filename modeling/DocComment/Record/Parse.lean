import DocComment.Description
import DocComment.Malformed
import DocComment.Record.Fields

/-!
# Reading a comment

A comment is read into a record, unless one of its sections is malformed; then the first such
section is reported.
-/

namespace DocComment

namespace Document

/-- The first section that cannot be read, as a complaint. -/
def malformed? (d : Document) : Option Malformed :=
  (d.numbered.find? (·.2.isMalformed)).map fun s ↦ ⟨.throws, s.1, .unclosedType⟩

/-- Everything that a document says, malformed sections left out. -/
def record (d : Document) : Record where
  description := Description.ofPreamble d.preamble
  authors := Author.ofSections d.sections
  copyright := Section.texts .copyright d.sections
  deprecated := Deprecation.ofSections d.sections
  examples := Example.ofSections d.sections
  isGlobal := Section.occurs .globalScope d.sections
  isIgnored := Section.occurs .ignored d.sections
  license := License.ofSections d.sections
  memberOf := Identifier.membersOf d.sections
  namespaces := Namespace.ofSections d.sections
  parameters := Parameter.ofSections d.sections
  isPrivate := Section.occurs .privateScope d.sections
  returns := Section.lastText .returns d.sections
  since := Section.lastText .since d.sections
  throws := Throw.ofSections d.sections
  todo := Section.texts .todo d.sections
  version := Section.lastText .version d.sections

/-- The record of a document, or the complaint about its first malformed section. -/
def parse (d : Document) : Except Malformed Record :=
  match d.malformed? with
  | some e => .error e
  | none => .ok d.record

end Document

/-- Read the lines of a comment. -/
def parseLines (lines : List Text) : Except Malformed Record := (Document.ofLines lines).parse

/-- Read a comment. -/
def parse (comment : Text) : Except Malformed Record := parseLines (Line.split comment)

/-- Read the comment of an item that need not have one. -/
def parse? : Option Text → Except Malformed (Option Record)
  | none => .ok none
  | some comment => (parse comment).map some

@[simp] theorem parse_nil : parse [] = .ok {} := rfl

end DocComment
