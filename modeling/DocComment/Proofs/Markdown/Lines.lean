import DocComment.Proofs.Markdown.Page
import DocComment.Proofs.Record.WellFormed
import DocComment.Proofs.Text.Paragraphs
import Mathlib.Data.List.Infix

/-!
# Pages line by line

A page is a row of lines, and every line belongs to the heading of a unit, to the fenced code of an
example, or to neither (`pageLines`); the text of the page is these lines (`paragraphs_page`).  The
lines of the body of a record are among them, in one piece (`paragraphs_body_infix_page`).

Which lines are headings is a matter of their first characters.  Most texts of a record cannot make
one: a quotation puts `>` in front of every line, a list indents the further lines of an item, a row
of a table has a single line, and code is fenced.  The others are the loose texts of the record
(`looseTexts`): a line of theirs that looks like a heading is one.  So the headings of a body are
the titles of its sections and those of its loose texts (`countP_titles_placedBody`).
-/

namespace DocComment.Markdown

open Text (join)

/-! ## Heading lines -/

/-- The title of a heading line: one to six hashes, a space, and the title. -/
def headingTitle? (line : Text) : Option Text :=
  let hashes := (line.takeWhile (· = '#')).length
  if 1 ≤ hashes ∧ hashes ≤ 6 then Text.after? (line.drop hashes) [' '] else none

theorem headingTitle?_eq_none {line : Text} (h : line.head? ≠ some '#') :
    headingTitle? line = none := by
  cases line with
  | nil => rfl
  | cons c rest =>
    have hc : c ≠ '#' := fun heq ↦ h (congrArg some heq)
    simp [headingTitle?, hc]

theorem headingTitle?_hashes {n : Nat} (hpos : 1 ≤ n) (hle : n ≤ 6) (title : Text) :
    headingTitle? (List.replicate n '#' ++ ' ' :: title) = some title := by
  have hhashes : (List.replicate n '#' ++ ' ' :: title).takeWhile (· = '#') =
      List.replicate n '#' := by
    rw [List.takeWhile_append_of_pos]
    · simp
    · intro c hc
      exact decide_eq_true (List.eq_of_mem_replicate hc)
  rw [headingTitle?, hhashes, List.length_replicate, if_pos ⟨hpos, hle⟩, Text.after?_eq_some_iff,
    List.drop_left' (List.length_replicate)]
  rfl

/-- The titles of the heading lines of a text. -/
def headingsIn (t : Text) : List Text := t.paragraphs.filterMap headingTitle?

theorem headingsIn_eq_nil {t : Text} (h : ∀ line ∈ t.paragraphs, line.head? ≠ some '#') :
    headingsIn t = [] :=
  List.filterMap_eq_nil_iff.2 fun line hline ↦ headingTitle?_eq_none (h line hline)

/-- A text without line feeds is a heading or has none. -/
theorem headingsIn_line {t : Text} (h : '\n' ∉ t) : headingsIn t = (headingTitle? t).toList := by
  rw [headingsIn, Text.paragraphs_of_notMem h]
  cases hline : headingTitle? t <;> simp [hline]

theorem Piece.toText_heading (title : Text) :
    (Piece.heading title).toText = "#### ".toList ++ title ++ ['\n'] := rfl

theorem Piece.toText_text (t : Text) : (Piece.text t).toText = t := rfl

/-- The titles of the heading lines of some pieces. -/
def pieceHeadings (ps : List Piece) : List Text := ps.flatMap fun p ↦ headingsIn p.toText

theorem pieceHeadings_append (ps qs : List Piece) :
    pieceHeadings (ps ++ qs) = pieceHeadings ps ++ pieceHeadings qs :=
  List.flatMap_append

theorem pieceHeadings_eq_nil {ps : List Piece} (h : ∀ p ∈ ps, headingsIn p.toText = []) :
    pieceHeadings ps = [] :=
  List.flatMap_eq_nil_iff.2 h

theorem pieceHeadings_heading {title : Text} (h : '\n' ∉ title) (ps : List Piece) :
    pieceHeadings (.heading title :: ps) = title :: pieceHeadings ps := by
  have hline : '\n' ∉ "#### ".toList ++ title := List.not_mem_append (by decide) h
  have hheading : headingsIn (Piece.heading title).toText = [title] := by
    have htitle : headingTitle? ("#### ".toList ++ title) = some title :=
      headingTitle?_hashes (n := 4) (by decide) (by decide) title
    rw [headingsIn, Piece.toText_heading, Text.paragraphs_append_feed,
      Text.paragraphs_of_notMem hline]
    exact List.filterMap_cons_some htitle
  rw [pieceHeadings, List.flatMap_cons, hheading]
  rfl

theorem pieceHeadings_paragraph (t : Text) : pieceHeadings (paragraph t) = headingsIn t :=
  List.append_nil (headingsIn t)

/-! ## Texts that make no heading -/

/-- The lines of a quotation are those of the text, each behind a mark, with an empty quoted line
between them. -/
theorem paragraphs_blockquote (t : Text) :
    (blockquote t).paragraphs = (t.paragraphs.map quoteLine).intersperse ['>'] := by
  have hne : t.paragraphs.map quoteLine ≠ [] := mt List.map_eq_nil_iff.1 t.paragraphs_ne_nil
  have hmark : '\n' ∉ ['>'] := by decide
  have hfeeds : ∀ line ∈ t.paragraphs.map quoteLine, '\n' ∉ line := by
    rw [List.forall_mem_map]
    intro line hline
    have hfeed : '\n' ∉ line := Text.notMem_of_mem_paragraphs hline
    rw [quoteLine]
    split
    case isTrue => decide
    case isFalse => exact List.not_mem_append (by decide) hfeed
  exact Text.paragraphs_join_between hne hfeeds hmark

/-- Every line of a quotation has a mark in front. -/
theorem head?_of_mem_blockquote {t line : Text} (h : line ∈ (blockquote t).paragraphs) :
    line.head? = some '>' := by
  rw [paragraphs_blockquote] at h
  obtain ⟨i, hi, rfl⟩ := List.getElem_of_mem h
  rw [List.getElem_intersperse]
  split
  case isTrue =>
    rw [List.getElem_map, quoteLine]
    split <;> rfl
  case isFalse => rfl

/-- The lines of a list item are its first line behind a bullet, and its other lines indented. -/
theorem paragraphs_bullet {item line : Text} {more : List Text}
    (h : item.paragraphs = line :: more) :
    (bullet item).paragraphs = ("* ".toList ++ line) :: more.map ("  ".toList ++ ·) := by
  rw [bullet, Text.replaceChar_feed, h]
  refine Text.paragraphs_indented (by decide) (by decide) fun l hl ↦ ?_
  exact Text.notMem_of_mem_paragraphs (h ▸ hl)

theorem headingsIn_bullet (item : Text) : headingsIn (bullet item) = [] := by
  obtain ⟨line, more, h⟩ := List.exists_cons_of_ne_nil item.paragraphs_ne_nil
  apply headingsIn_eq_nil
  rw [paragraphs_bullet h]
  rintro l hl
  rcases List.mem_cons.1 hl with rfl | hl
  · simp
  · obtain ⟨l, -, rfl⟩ := List.mem_map.1 hl
    simp

theorem headingsIn_parameterRow (p : Parameter) : headingsIn (parameterRow p) = [] := by
  have hcell : ∀ t, '\n' ∉ escapeCell t := fun t ↦ Text.notMem_replaceChar (by decide) _
  have hrow : '\n' ∉ parameterRow p := by
    simp [parameterRow, codeSpan, hcell]
  rw [headingsIn_line hrow]
  rfl

theorem pieceHeadings_descriptionQuote (description : Option Text) :
    pieceHeadings (descriptionQuote description) = [] := by
  cases description with
  | none => rfl
  | some t =>
    refine (pieceHeadings_paragraph _).trans (headingsIn_eq_nil fun line hline ↦ ?_)
    rw [head?_of_mem_blockquote hline]
    decide

theorem pieceHeadings_parameterTable (ps : List Parameter) :
    pieceHeadings (parameterTable ps) = [] := by
  rw [parameterTable]
  split
  case isTrue => rfl
  case isFalse =>
    apply pieceHeadings_eq_nil
    simp only [List.cons_append, List.forall_mem_cons, List.forall_mem_append, List.forall_mem_map]
    refine ⟨by decide, by decide, fun p _ ↦ headingsIn_parameterRow p, by decide⟩

/-- The heading of a list is the only one in it. -/
theorem pieceHeadings_listSection {title : Text} (h : '\n' ∉ title) (items : List Text) :
    pieceHeadings (listSection title items) = if items.isEmpty then [] else [title] := by
  rw [listSection]
  split
  case isTrue => rfl
  case isFalse =>
    rw [List.cons_append, pieceHeadings_heading h, pieceHeadings_append, pieceHeadings_eq_nil]
    · rfl
    · rw [List.forall_mem_map]
      exact fun item _ ↦ headingsIn_bullet item

/-- Names are on one line, and so is the line that lists them. -/
theorem pieceHeadings_scopeLine {memberOf : List Text} (h : ∀ t ∈ memberOf, '\n' ∉ t)
    (isGlobal : Bool) : pieceHeadings (scopeLine memberOf isGlobal) = [] := by
  rw [scopeLine]
  have hscopes : ∀ t ∈ memberOf.map codeSpan ++ (if isGlobal then ["global scope".toList] else []),
      '\n' ∉ t := by
    rw [List.forall_mem_append, List.forall_mem_map]
    constructor
    · intro t ht
      simp [codeSpan, h t ht]
    · cases isGlobal <;> simp
  generalize memberOf.map codeSpan ++ _ = scopes at hscopes
  split
  case isTrue => rfl
  case isFalse =>
    rw [pieceHeadings_paragraph, headingsIn_line]
    · rfl
    · simp only [List.mem_append, not_or]
      refine ⟨⟨by decide, fun hmem ↦ ?_⟩, by decide⟩
      rcases Text.mem_join hmem with hsep | ⟨t, ht, hmem⟩
      · exact absurd hsep (by decide)
      · exact hscopes t ht hmem

/-! ## Loose texts -/

/-- The texts of a record that stand on a page as they are, behind at most a label. -/
def looseTexts (r : Record) : List Text :=
  (r.deprecated.reason?.map fun t ↦ "***DEPRECATED: ".toList ++ t ++ "***".toList).toList ++
  (r.returns.map (labelled "Returns".toList)).toList ++
  r.examples.filterMap Example.caption ++
  [join "  \n".toList ((r.since.map (labelled "Since".toList)).toList ++
    (r.version.map (labelled "Version".toList)).toList)] ++
  ((r.license.bind License.text).map (·.replaceChar '\n' "\n\n".toList)).toList

/-- The titles of the heading lines that a record's loose texts bring to a page. -/
def looseTitles (r : Record) : List Text := (looseTexts r).flatMap headingsIn

theorem pieceHeadings_optional {α : Type} (x : Option α) (t : α → Text) :
    pieceHeadings ((x.map fun a ↦ paragraph (t a)).getD []) =
      (x.map t).toList.flatMap headingsIn := by
  cases x with
  | none => rfl
  | some a => exact (pieceHeadings_paragraph (t a)).trans (List.append_nil _).symm

theorem pieceHeadings_deprecationNotice (d : Deprecation) :
    pieceHeadings (deprecationNotice d) =
      (d.reason?.map fun t ↦ "***DEPRECATED: ".toList ++ t ++ "***".toList).toList.flatMap
        headingsIn := by
  cases d with
  | no => rfl
  | yes => decide
  | reason t => exact (pieceHeadings_paragraph _).trans (List.append_nil _).symm

theorem pieceHeadings_stamps (since version : Option Text) :
    pieceHeadings (stamps since version) =
      headingsIn (join "  \n".toList ((since.map (labelled "Since".toList)).toList ++
        (version.map (labelled "Version".toList)).toList)) := by
  rw [stamps]
  generalize (since.map (labelled "Since".toList)).toList ++ _ = lines
  cases lines with
  | nil => rfl
  | cons line rest => exact pieceHeadings_paragraph _

/-- A license has its title, and a name that is a label makes no heading. -/
theorem pieceHeadings_licenseSection {license : Option License}
    (h : ∀ l ∈ license, ∀ t ∈ l.name, '\n' ∉ t) :
    pieceHeadings (licenseSection license) =
      (if license.isNone then [] else ["License".toList]) ++
        ((license.bind License.text).map (·.replaceChar '\n' "\n\n".toList)).toList.flatMap
          headingsIn := by
  cases license with
  | none => rfl
  | some l =>
    have hname : (l.name.map strong).toList.flatMap headingsIn = [] := by
      rw [List.flatMap_eq_nil_iff]
      intro t ht
      obtain ⟨name, hname, rfl⟩ := Option.map_eq_some_iff.1 (Option.mem_toList.1 ht)
      have hstrong : '\n' ∉ strong name := by simp [strong, h l rfl name hname]
      rw [headingsIn_line hstrong]
      rfl
    rw [licenseSection, List.cons_append, pieceHeadings_heading (by decide), pieceHeadings_append,
      pieceHeadings_optional l.name, pieceHeadings_optional l.text, hname]
    rfl

/-! ## Lines of a page -/

/-- What a line of a page belongs to. -/
inductive PageLine.Role where
  | unitHeading
  /-- A fence of an example, or the code between two fences. -/
  | fenced
  | other
deriving DecidableEq, Repr

/-- A line of a page. -/
structure PageLine where
  role : PageLine.Role
  text : Text
deriving DecidableEq, Repr

/-- The title of the line, if it is a heading. -/
def PageLine.title? (l : PageLine) : Option Text :=
  if l.role = .fenced then none else headingTitle? l.text

/-- A piece of a page, and what its lines belong to. -/
structure Placed where
  role : PageLine.Role
  piece : Piece
deriving DecidableEq, Repr

namespace Placed

/-- The lines of a piece. -/
def lines (p : Placed) : List PageLine := p.piece.toText.paragraphs.map (PageLine.mk p.role)

/-- The titles of the headings among some pieces. -/
def titles (ps : List Placed) : List Text := (ps.flatMap lines).filterMap PageLine.title?

/-- Pieces that are neither headings of units nor fenced. -/
def plain (ps : List Piece) : List Placed := ps.map (Placed.mk .other)

theorem titles_append (ps qs : List Placed) : titles (ps ++ qs) = titles ps ++ titles qs := by
  rw [titles, List.flatMap_append, List.filterMap_append, titles, titles]

theorem titles_plain (ps : List Piece) : titles (plain ps) = pieceHeadings ps := by
  rw [titles, plain, List.flatMap_map, List.filterMap_flatMap, pieceHeadings]
  refine List.flatMap_congr fun p _ ↦ ?_
  rw [lines, List.filterMap_map]
  rfl

theorem titles_fenced (p : Piece) (ps : List Placed) : titles (⟨.fenced, p⟩ :: ps) = titles ps := by
  have hnone : (lines ⟨.fenced, p⟩).filterMap PageLine.title? = [] := by
    rw [lines, List.filterMap_map]
    exact List.filterMap_eq_nil_iff.2 fun _ _ ↦ rfl
  rw [titles, List.flatMap_cons, List.filterMap_append, hnone, titles]
  rfl

end Placed

open Placed (plain)

/-! ## Bodies -/

/-- The pieces of an example; the fences and the code between them are fenced. -/
def placedExample (codeLang : Text) (e : Example) : List Placed :=
  plain ((e.caption.map paragraph).getD []) ++
    [⟨.fenced, .text ("\x60\x60\x60".toList ++ codeLang)⟩, ⟨.fenced, .text e.code⟩,
      ⟨.fenced, .text "\x60\x60\x60".toList⟩, ⟨.other, .text []⟩]

/-- The pieces of all examples. -/
def placedExamples (codeLang : Text) (es : List Example) : List Placed :=
  if es.isEmpty then []
  else ⟨.other, .heading "Examples".toList⟩ :: es.flatMap (placedExample codeLang)

/-- The pieces of a record before the examples. -/
def piecesAbove (r : Record) : List Piece :=
  deprecationNotice r.deprecated ++ descriptionQuote r.description ++ parameterTable r.parameters ++
  returnsLine r.returns ++ listSection "Throws".toList (r.throws.map throwItem)

/-- The pieces of a record after the examples. -/
def piecesBelow (r : Record) : List Piece :=
  stamps r.since r.version ++
  listSection "Authors".toList (r.authors.filterMap authorItem?) ++
  listSection "Copyright".toList r.copyright ++
  licenseSection r.license ++
  listSection "Todo".toList r.todo ++
  listSection "Namespaces".toList (r.namespaces.map fun n ↦ described n.name n.description) ++
  scopeLine r.memberOf r.isGlobal

theorem pieces_eq (o : Options) (r : Record) :
    pieces o r = piecesAbove r ++ exampleSection o.codeLang r.examples ++ piecesBelow r := by
  simp only [pieces, piecesAbove, piecesBelow, List.append_assoc]

/-- The pieces of a record. -/
def placedBody (o : Options) (r : Record) : List Placed :=
  plain (piecesAbove r) ++ placedExamples o.codeLang r.examples ++ plain (piecesBelow r)

theorem map_piece_plain (ps : List Piece) : (plain ps).map Placed.piece = ps := by
  rw [plain, List.map_map]
  exact List.map_id ps

theorem map_piece_placedExamples (codeLang : Text) (es : List Example) :
    (placedExamples codeLang es).map Placed.piece = exampleSection codeLang es := by
  rw [placedExamples, exampleSection]
  split
  case isTrue => rfl
  case isFalse =>
    rw [List.map_cons, List.map_flatMap]
    refine congrArg (Piece.heading "Examples".toList :: ·) (List.flatMap_congr fun e _ ↦ ?_)
    rw [placedExample, List.map_append, map_piece_plain, exampleBlock]
    rfl

/-- The pieces of a record are those that its body is written with. -/
theorem map_piece_placedBody (o : Options) (r : Record) :
    (placedBody o r).map Placed.piece = pieces o r := by
  simp only [placedBody, List.map_append, map_piece_plain, map_piece_placedExamples, pieces_eq]

/-- The lines of some pieces. -/
def pieceLines (ps : List Piece) : List Text := ps.flatMap (·.toText.paragraphs)

theorem pieceLines_append (ps qs : List Piece) :
    pieceLines (ps ++ qs) = pieceLines ps ++ pieceLines qs :=
  List.flatMap_append

/-- The lines of a body are those of its pieces, if there are any. -/
theorem paragraphs_body {o : Options} {r : Record} (h : pieces o r ≠ []) :
    (body o r).paragraphs = pieceLines (pieces o r) := by
  rw [body, Text.paragraphs_join (mt List.map_eq_nil_iff.1 h), List.flatMap_map, pieceLines]

theorem titles_placedExamples (codeLang : Text) (es : List Example) :
    Placed.titles (placedExamples codeLang es) =
      (if es.isEmpty then [] else ["Examples".toList]) ++
        (es.filterMap Example.caption).flatMap headingsIn := by
  have hblock : ∀ e : Example, Placed.titles (placedExample codeLang e) =
      e.caption.toList.flatMap headingsIn := by
    intro e
    have hcaption := pieceHeadings_optional e.caption id
    rw [Option.map_id] at hcaption
    rw [placedExample, Placed.titles_append, Placed.titles_plain, Placed.titles_fenced,
      Placed.titles_fenced, Placed.titles_fenced]
    exact (List.append_nil _).trans hcaption
  have hblocks : Placed.titles (es.flatMap (placedExample codeLang)) =
      (es.filterMap Example.caption).flatMap headingsIn := by
    induction es with
    | nil => rfl
    | cons e rest ih =>
      rw [List.flatMap_cons, Placed.titles_append, hblock, ih]
      cases h : e.caption <;> simp [h]
  have hheading : Placed.titles [⟨.other, .heading "Examples".toList⟩] = ["Examples".toList] := by
    decide
  rw [placedExamples]
  split
  case isTrue h => rw [List.isEmpty_iff.1 h]; rfl
  case isFalse => rw [← List.singleton_append, Placed.titles_append, hheading, hblocks]

theorem pieceHeadings_piecesAbove (r : Record) :
    pieceHeadings (piecesAbove r) =
      (r.deprecated.reason?.map fun t ↦
          "***DEPRECATED: ".toList ++ t ++ "***".toList).toList.flatMap headingsIn ++
        (r.returns.map (labelled "Returns".toList)).toList.flatMap headingsIn ++
        if r.throws.isEmpty then [] else ["Throws".toList] := by
  simp only [piecesAbove, pieceHeadings_append, pieceHeadings_deprecationNotice,
    pieceHeadings_descriptionQuote, pieceHeadings_parameterTable, returnsLine,
    pieceHeadings_optional, List.append_nil]
  rw [pieceHeadings_listSection (by decide), List.isEmpty_map]

/-- The names that a record is read with are on one line each. -/
theorem pieceHeadings_piecesBelow {r : Record} (hr : r.WellFormed) :
    pieceHeadings (piecesBelow r) =
      headingsIn (join "  \n".toList ((r.since.map (labelled "Since".toList)).toList ++
        (r.version.map (labelled "Version".toList)).toList)) ++
      (if r.authors.any fun a ↦ a.name.isSome || a.email.isSome then ["Authors".toList] else []) ++
      (if r.copyright.isEmpty then [] else ["Copyright".toList]) ++
      ((if r.license.isNone then [] else ["License".toList]) ++
        ((r.license.bind License.text).map (·.replaceChar '\n' "\n\n".toList)).toList.flatMap
          headingsIn) ++
      (if r.todo.isEmpty then [] else ["Todo".toList]) ++
      if r.namespaces.isEmpty then [] else ["Namespaces".toList] := by
  have hlicense : ∀ l ∈ r.license, ∀ t ∈ l.name, '\n' ∉ t := by
    intro l hl t ht hmem
    have hbreak := ((hr.license l hl).name t ht).unbroken '\n' hmem
    cases hbreak
  have hmembers : ∀ t ∈ r.memberOf, '\n' ∉ t := by
    intro t ht hmem
    have hbreak := (hr.members t ht).isLabel.unbroken '\n' hmem
    cases hbreak
  simp only [piecesBelow, pieceHeadings_append, pieceHeadings_stamps]
  rw [pieceHeadings_licenseSection hlicense, pieceHeadings_scopeLine hmembers,
    pieceHeadings_listSection (by decide), pieceHeadings_listSection (by decide),
    pieceHeadings_listSection (by decide), pieceHeadings_listSection (by decide), authorTitle_eq,
    List.isEmpty_map, List.append_nil]

/-- The headings in a body are the titles of its sections and those of its loose texts. -/
theorem countP_titles_placedBody (o : Options) {r : Record} (hr : r.WellFormed) (p : Text → Bool) :
    (Placed.titles (placedBody o r)).countP p =
      (sectionTitles r).countP p + (looseTitles r).countP p := by
  simp only [placedBody, Placed.titles_append, Placed.titles_plain, titles_placedExamples,
    pieceHeadings_piecesAbove, pieceHeadings_piecesBelow hr, sectionTitles, looseTitles, looseTexts,
    List.flatMap_append, List.flatMap_singleton, List.countP_append]
  omega

/-! ## Units and pages -/

/-- The pieces of a record that may be missing; without pieces an empty line is left. -/
def placedRecord (o : Options) (record : Option Record) : List Placed :=
  let body := (record.map (placedBody o)).getD []
  if body.isEmpty then plain [.text []] else body

/-- The pieces of a unit. -/
def placedUnit (o : Options) (u : DocumentedUnit) : List Placed :=
  ⟨.unitHeading, .text ("### ".toList ++ u.name)⟩ ::
    plain [.text [], .text ('_' :: u.kind.word ++ ['_']), .text []] ++ placedRecord o u.record

/-- The lines of an index. -/
def indexTexts (visible : List DocumentedUnit) : List Text :=
  ["## ".toList ++ indexTitle, []] ++
    (visible.mapIdx fun i u ↦
      indexItem u.name (Anchors.below (headingsAbove visible i) u.name)) ++
    [[]]

/-- The pieces of a page. -/
def placedPage (o : Options) (units : List DocumentedUnit) : List Placed :=
  let visible := units.filter (isVisible o)
  if visible.isEmpty then []
  else plain ((indexTexts visible).map Piece.text) ++ visible.flatMap (placedUnit o)

/-- The lines of a page. -/
def pageLines (o : Options) (units : List DocumentedUnit) : List PageLine :=
  (placedPage o units).flatMap Placed.lines

namespace Placed

/-- The text of some pieces, each with a line feed after it. -/
def text (ps : List Placed) : Text := ps.flatMap fun p ↦ p.piece.toText ++ ['\n']

theorem text_append (ps qs : List Placed) : text (ps ++ qs) = text ps ++ text qs :=
  List.flatMap_append

theorem text_plain (ps : List Piece) : text (plain ps) = ps.flatMap (·.toText ++ ['\n']) := by
  rw [text, plain, List.flatMap_map]

theorem text_flatMap_lines (ps : List Placed) :
    (ps.flatMap lines).flatMap (·.text ++ ['\n']) = text ps := by
  rw [List.flatMap_assoc, text]
  refine List.flatMap_congr fun p _ ↦ ?_
  rw [lines, List.flatMap_map]
  exact Text.flatMap_paragraphs p.piece.toText

theorem map_text_flatMap_lines (ps : List Placed) :
    (ps.flatMap lines).map PageLine.text = pieceLines (ps.map Placed.piece) := by
  rw [List.map_flatMap, pieceLines, List.flatMap_map]
  refine List.flatMap_congr fun p _ ↦ ?_
  rw [lines, List.map_map]
  exact List.map_id _

end Placed

theorem text_placedRecord (o : Options) (record : Option Record) :
    Placed.text (placedRecord o record) = (record.map (body o)).getD [] ++ ['\n'] := by
  cases record with
  | none => rfl
  | some r =>
    have hbody : body o r = join ['\n'] ((placedBody o r).map fun p ↦ p.piece.toText) := by
      rw [body, ← map_piece_placedBody, List.map_map]
      rfl
    rw [placedRecord, Option.map_some, Option.map_some, Option.getD_some, Option.getD_some, hbody]
    split
    case isTrue h =>
      rw [List.isEmpty_iff.1 h]
      rfl
    case isFalse h =>
      have hne : (placedBody o r).map (fun p ↦ p.piece.toText) ≠ [] := by
        rwa [Ne, List.map_eq_nil_iff, ← List.isEmpty_iff]
      rw [Text.join_append_feed hne, List.flatMap_map]
      rfl

/-- The lines of a record are those of its body. -/
theorem map_text_placedRecord (o : Options) (r : Record) :
    ((placedRecord o (some r)).flatMap Placed.lines).map PageLine.text = (body o r).paragraphs := by
  rw [Placed.map_text_flatMap_lines, placedRecord, Option.map_some, Option.getD_some]
  split
  case isTrue h =>
    have hnil : pieces o r = [] := by
      rw [← map_piece_placedBody, List.isEmpty_iff.1 h]
      rfl
    rw [body, hnil]
    rfl
  case isFalse h =>
    rw [map_piece_placedBody, paragraphs_body]
    rwa [← map_piece_placedBody, Ne, List.map_eq_nil_iff, ← List.isEmpty_iff]

theorem text_placedUnit (o : Options) (u : DocumentedUnit) :
    Placed.text (placedUnit o u) = unitBlock o u := by
  have hbefore : "\n\n_".toList = ['\n', '\n', '_'] := rfl
  have hafter : "_\n\n".toList = ['_', '\n', '\n'] := rfl
  have hrecord := text_placedRecord o u.record
  rw [placedUnit, Placed.text_append]
  generalize placedRecord o u.record = ps at hrecord ⊢
  rw [hrecord]
  unfold unitBlock
  rw [hbefore, hafter]
  simp only [Placed.text, Placed.plain, Piece.toText_text, List.map_cons, List.map_nil,
    List.flatMap_cons, List.flatMap_nil, List.append_assoc, List.cons_append, List.nil_append]

theorem text_placedPage (o : Options) (units : List DocumentedUnit) :
    Placed.text (placedPage o units) = page o units := by
  rw [placedPage, page]
  generalize units.filter (isVisible o) = visible
  split
  case isTrue => rfl
  case isFalse =>
    have hblocks : Placed.text (visible.flatMap (placedUnit o)) =
        visible.flatMap (unitBlock o) := by
      rw [Placed.text, List.flatMap_assoc]
      exact List.flatMap_congr fun u _ ↦ text_placedUnit o u
    have hfeeds : "\n\n".toList = ['\n', '\n'] := rfl
    rw [Placed.text_append, hblocks, Placed.text_plain, List.flatMap_map, indexTexts,
      List.flatMap_append, List.flatMap_append, indexLines_page, hfeeds]
    simp only [Piece.toText_text, List.flatMap_cons, List.flatMap_nil, List.append_assoc,
      List.cons_append, List.nil_append]

/-- The lines of a page are the lines of its text, which ends with a line feed. -/
theorem paragraphs_page (o : Options) (units : List DocumentedUnit) :
    (page o units).paragraphs = (pageLines o units).map PageLine.text ++ [[]] := by
  have hfeeds : ∀ line ∈ (pageLines o units).map PageLine.text, '\n' ∉ line := by
    intro line hline
    obtain ⟨l, hl, rfl⟩ := List.mem_map.1 hline
    obtain ⟨p, -, hl⟩ := List.mem_flatMap.1 hl
    obtain ⟨t, ht, rfl⟩ := List.mem_map.1 hl
    exact Text.notMem_of_mem_paragraphs ht
  rw [← Text.paragraphs_flatMap_feed hfeeds, List.flatMap_map, ← text_placedPage,
    ← Placed.text_flatMap_lines, pageLines]

/-- The body of a record stands on the page of every visible unit that has it, in one piece. -/
theorem paragraphs_body_infix_page {o : Options} {units : List DocumentedUnit} {u : DocumentedUnit}
    {r : Record} (hu : u ∈ units) (hvisible : isVisible o u = true) (hrecord : u.record = some r) :
    (body o r).paragraphs <:+: (page o units).paragraphs := by
  have hmem : u ∈ units.filter (isVisible o) := List.mem_filter.2 ⟨hu, hvisible⟩
  have hunit : placedRecord o (some r) <:+: placedUnit o u := by
    rw [placedUnit, hrecord]
    exact (List.suffix_append _ _).isInfix
  have hunits : placedUnit o u <:+: (units.filter (isVisible o)).flatMap (placedUnit o) :=
    List.infix_of_mem_flatten (List.mem_map_of_mem hmem)
  have hpage : placedRecord o (some r) <:+: placedPage o units := by
    rw [placedPage, if_neg (by simpa using List.ne_nil_of_mem hmem)]
    exact (hunit.trans hunits).trans (List.suffix_append _ _).isInfix
  rw [paragraphs_page, ← map_text_placedRecord]
  exact (List.IsInfix.map _ (List.IsInfix.flatMap hpage _)).trans (List.prefix_append _ _).isInfix

end DocComment.Markdown
