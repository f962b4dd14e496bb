import DocComment.Anchors
import DocComment.DocUnit

/-!
# Markdown pages

A page is an index of its visible units and, for each of them, a heading, its kind and the body of
its record.  A body is a row of pieces, of which some are headings; the index counts exactly these
and the headings of the units, since its anchors follow page order.
-/

namespace DocComment.Markdown

open Text (join)

/-- What a page looks like. -/
structure Options where
  /-- The language named on the fences around examples; it may be empty. -/
  codeLang : Text := []
  /-- Whether units that are private or ignored are on the page. -/
  showPrivate : Bool := false
deriving DecidableEq, Repr

/-! ## Pieces -/

/-- A piece of a body.  Pieces are separated by line feeds. -/
inductive Piece where
  | heading (title : Text)
  | text (t : Text)
deriving DecidableEq, Repr

namespace Piece

/-- What is written for a piece; a heading brings a blank line along. -/
def toText : Piece → Text
  | heading title => "#### ".toList ++ title ++ ['\n']
  | text t => t

/-- The title of a heading. -/
def title? : Piece → Option Text
  | heading title => some title
  | text _ => none

end Piece

/-- A text with a blank line after it. -/
def paragraph (t : Text) : List Piece := [.text t, .text []]

/-! ## Spans and blocks -/

/-- A text in a code span. -/
def codeSpan (t : Text) : Text := '\x60' :: t ++ ['\x60']

/-- A strong text. -/
def strong (t : Text) : Text := "**".toList ++ t ++ "**".toList

/-- A line of a quotation. -/
def quoteLine (line : Text) : Text := if line.isEmpty then ['>'] else "> ".toList ++ line

/-- A quotation, with an empty quoted line between its lines. -/
def blockquote (t : Text) : Text := join "\n>\n".toList (t.paragraphs.map quoteLine)

/-- The text of a table cell: no bar divides it and no line feed ends it. -/
def escapeCell (t : Text) : Text := (t.replaceChar '|' "\\|".toList).replaceChar '\n' "<br>".toList

/-- An item of a list; its further lines are indented to stay in it. -/
def bullet (item : Text) : Text := "* ".toList ++ item.replaceChar '\n' "\n  ".toList

/-- A list under a heading, unless it has no items. -/
def listSection (title : Text) (items : List Text) : List Piece :=
  if items.isEmpty then []
  else .heading title :: items.map (fun item ↦ .text (bullet item)) ++ [.text []]

/-! ## Sections of a body -/

/-- The notice above the body of a deprecated item. -/
def deprecationNotice : Deprecation → List Piece
  | .no => []
  | .yes => paragraph "***NOTE: THIS IS DEPRECATED***".toList
  | .reason text => paragraph ("***DEPRECATED: ".toList ++ text ++ "***".toList)

/-- The description, quoted. -/
def descriptionQuote (description : Option Text) : List Piece :=
  (description.map fun t ↦ paragraph (blockquote t)).getD []

/-- The row of a parameter. -/
def parameterRow (p : Parameter) : Text :=
  '|' :: codeSpan (escapeCell p.name) ++ " |".toList ++ escapeCell p.description ++ " |".toList

/-- The parameters as a table. -/
def parameterTable (ps : List Parameter) : List Piece :=
  if ps.isEmpty then []
  else .text "|Parameter |Description |".toList :: .text "|---|---|".toList ::
    ps.map (fun p ↦ .text (parameterRow p)) ++ [.text []]

/-- A text after a label in strong letters. -/
def labelled (label t : Text) : Text := strong label ++ ": ".toList ++ t

/-- What the item returns. -/
def returnsLine (returns : Option Text) : List Piece :=
  (returns.map fun t ↦ paragraph (labelled "Returns".toList t)).getD []

/-- A name in a code span, with a description if there is one. -/
def described (name : Text) (description : Option Text) : Text :=
  match description with
  | some t => codeSpan name ++ ": ".toList ++ t
  | none => codeSpan name

/-- An error that may be thrown. -/
def throwItem (t : Throw) : Text :=
  match t.type with
  | some type => described type t.description
  | none => t.description.getD []

/-- The fenced code of an example, after its caption. -/
def exampleBlock (codeLang : Text) (e : Example) : List Piece :=
  (e.caption.map paragraph).getD [] ++
    [.text ("\x60\x60\x60".toList ++ codeLang), .text e.code, .text "\x60\x60\x60".toList, .text []]

/-- The examples under their heading. -/
def exampleSection (codeLang : Text) (es : List Example) : List Piece :=
  if es.isEmpty then [] else .heading "Examples".toList :: es.flatMap (exampleBlock codeLang)

/-- Since when there is the item, and in which version. -/
def stamps (since version : Option Text) : List Piece :=
  let lines := (since.map (labelled "Since".toList)).toList ++
    (version.map (labelled "Version".toList)).toList
  if lines.isEmpty then [] else paragraph (join "  \n".toList lines)

/-- An author who has a name or an address. -/
def authorItem? (a : Author) : Option Text :=
  match a.name, a.email with
  | some name, some email => some (name ++ " <".toList ++ email ++ ['>'])
  | some name, none => some name
  | none, some email => some ('<' :: email ++ ['>'])
  | none, none => none

/-- The license under its heading; its line feeds become paragraph breaks. -/
def licenseSection (license : Option License) : List Piece :=
  match license with
  | none => []
  | some l => .heading "License".toList ::
    (l.name.map fun name ↦ paragraph (strong name)).getD [] ++
    (l.text.map fun t ↦ paragraph (t.replaceChar '\n' "\n\n".toList)).getD []

/-- The scopes that the item is a member of. -/
def scopeLine (memberOf : List Text) (isGlobal : Bool) : List Piece :=
  let scopes := memberOf.map codeSpan ++ if isGlobal then ["global scope".toList] else []
  if scopes.isEmpty then []
  else paragraph ("_Member of: ".toList ++ join ", ".toList scopes ++ ['_'])

/-! ## Bodies and pages -/

/-- The pieces of a record, in page order. -/
def pieces (o : Options) (r : Record) : List Piece :=
  deprecationNotice r.deprecated ++
  descriptionQuote r.description ++
  parameterTable r.parameters ++
  returnsLine r.returns ++
  listSection "Throws".toList (r.throws.map throwItem) ++
  exampleSection o.codeLang r.examples ++
  stamps r.since r.version ++
  listSection "Authors".toList (r.authors.filterMap authorItem?) ++
  listSection "Copyright".toList r.copyright ++
  licenseSection r.license ++
  listSection "Todo".toList r.todo ++
  listSection "Namespaces".toList (r.namespaces.map fun n ↦ described n.name n.description) ++
  scopeLine r.memberOf r.isGlobal

/-- The body of a record. -/
def body (o : Options) (r : Record) : Text := join ['\n'] ((pieces o r).map Piece.toText)

/-- The headings of a record, in page order. -/
def titles (o : Options) (r : Record) : List Text := (pieces o r).filterMap Piece.title?

/-- Whether a unit is on the page. -/
def isVisible (o : Options) (u : DocumentedUnit) : Bool := o.showPrivate || !u.isHidden

/-- The headings of a unit, its own first. -/
def headings (o : Options) (u : DocumentedUnit) : List Text :=
  u.name :: (u.record.map (titles o)).getD []

/-- A unit on a page. -/
def unitBlock (o : Options) (u : DocumentedUnit) : Text :=
  "### ".toList ++ u.name ++ "\n\n_".toList ++ u.kind.word ++ "_\n\n".toList ++
    (u.record.map (body o)).getD [] ++ ['\n']

/-- The title of the index, which is the first heading of a page. -/
def indexTitle : Text := "Index".toList

/-- The lines of an index, given the headings above the units. -/
def indexLines (o : Options) (above : Anchors) : List DocumentedUnit → Text
  | [] => []
  | u :: rest =>
    indexItem u.name (above.anchor u.name) ++ '\n' ::
      indexLines o (above.registerAll (headings o u)) rest

/-- The page of some units; it is empty when none of them is visible. -/
def page (o : Options) (units : List DocumentedUnit) : Text :=
  let visible := units.filter (isVisible o)
  if visible.isEmpty then []
  else "## ".toList ++ indexTitle ++ "\n\n".toList ++
    indexLines o (Anchors.register {} indexTitle) visible ++ '\n' ::
    visible.flatMap (unitBlock o)

end DocComment.Markdown
