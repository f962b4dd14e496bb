import DocComment.Format
import DocComment.Proofs.Document.Complaint

/-!
# Units that leave no trace

A unit can stay away from a public page for two reasons: its record says that it is hidden, or its
comment cannot be read and there is no record at all.  Both are decided by single lines, wherever in
the comment they stand: a unit is hidden by a line that is the marker of a private or an ignored
item (`DocUnit.isHidden_reading`), and its comment cannot be read when a line opens the type of an
error and does not close it (`Document.isSome_malformed?_ofLines`).  What is left of a listing after
both are taken out is all that a public page is made of (`DocUnit.filter_isVisible_documentAll`), so
that a unit which is not on the page changes nothing on it, no anchor either.
-/

namespace DocComment

/-! ## What a line says -/

namespace Line

/-- The line is the marker of an item that is private or ignored. -/
def isHiding (line : Text) : Bool :=
  line.trim = "@private".toList || line.trim = "@ignore".toList

theorem any_or (p q : Text → Bool) (lines : List Text) :
    (lines.any fun line ↦ p line || q line) = (lines.any p || lines.any q) := by
  induction lines with
  | nil => rfl
  | cons line rest ih =>
    rw [List.any_cons, ih, List.any_cons, List.any_cons, Bool.or_assoc, Bool.or_assoc,
      Bool.or_left_comm (q line)]

end Line

/-- A tag that has to be the whole line occurs in the lines that are its word. -/
theorem Tag.occursIn_of_wholeLine {tag : Tag} (h : tag.shape = .wholeLine) (lines : List Text) :
    occursIn lines tag = lines.any fun line ↦ line.trim = tag.token := by
  refine congrArg lines.any (funext fun line ↦ ?_)
  rw [argument?, marker, Marker.argument?.eq_def]
  simp only [h]
  split <;> simp_all

namespace DocUnit

/-! ## What a unit says -/

/-- A line of the unit's comment has a property; a unit without a comment has no lines. -/
def anyLine (p : Text → Bool) (u : DocUnit) : Bool :=
  u.comment.any fun comment ↦ (Line.split comment).any p

/-- The comment of the unit leaves the type of an error unclosed. -/
def isUnreadable (u : DocUnit) : Bool := u.anyLine Line.isUnclosed

/-- The unit is hidden by its comment, or its comment cannot be read. -/
def isSuppressed (u : DocUnit) : Bool :=
  u.anyLine fun line ↦ Line.isHiding line || Line.isUnclosed line

/-- The unit with all that its comment says, whatever cannot be read left out. -/
def reading (u : DocUnit) : DocumentedUnit :=
  ⟨u.name, u.kind, u.comment.map fun comment ↦ (Document.ofText comment).record⟩

end DocUnit

namespace Document

/-- A document cannot be read when one of its lines leaves a type unclosed. -/
theorem isSome_malformed?_ofLines (ls : List Text) :
    (ofLines ls).malformed?.isSome = ls.any Line.isUnclosed := by
  rw [malformed?_ofLines, Option.isSome_map, List.findIdx?_isSome,
    funext Line.isMalformed_eq_isUnclosed]

/-- The record of a document is hidden when one of its lines hides it. -/
theorem isHidden_record_ofLines (ls : List Text) :
    (ofLines ls).record.isHidden = ls.any Line.isHiding := by
  calc (ofLines ls).record.isHidden
      = (Tag.occursIn ls .privateScope || Tag.occursIn ls .ignored) := by
        rw [← Section.occurs_ofLines, ← Section.occurs_ofLines]
        rfl
    _ = ((ls.any fun line ↦ line.trim = "@private".toList) ||
          ls.any fun line ↦ line.trim = "@ignore".toList) := by
        rw [Tag.occursIn_of_wholeLine rfl, Tag.occursIn_of_wholeLine rfl]
        rfl
    _ = ls.any Line.isHiding := (Line.any_or _ _ ls).symm

end Document

namespace DocUnit

variable (u : DocUnit) (us : List DocUnit)

/-- A unit is documented as it reads, unless its comment cannot be read. -/
theorem toOption_document :
    u.document.toOption = if u.isUnreadable then none else some u.reading := by
  obtain ⟨name, kind, comment⟩ := u
  cases comment with
  | none => rfl
  | some comment =>
    have hlines := Document.isSome_malformed?_ofLines (Line.split comment)
    rw [document, parse?, parse, parseLines, Document.parse, isUnreadable, anyLine, Option.any_some,
      ← hlines]
    cases (Document.ofLines (Line.split comment)).malformed? with
    | none => rfl
    | some e => rfl

/-- The units whose comments can be read are documented, in order. -/
theorem documentAll_eq :
    documentAll us = (us.filter fun u ↦ !u.isUnreadable).map reading := by
  induction us with
  | nil => rfl
  | cons u us ih =>
    rw [documentAll, List.filterMap_cons, toOption_document, ← documentAll, ih, List.filter_cons]
    cases u.isUnreadable <;> rfl

/-- A line of the comment decides whether a unit is hidden. -/
theorem isHidden_reading : u.reading.isHidden = u.anyLine Line.isHiding := by
  obtain ⟨name, kind, comment⟩ := u
  cases comment with
  | none => rfl
  | some comment => exact Document.isHidden_record_ofLines (Line.split comment)

/-- A unit is suppressed for being hidden or for having no record. -/
theorem isSuppressed_eq : u.isSuppressed = (u.anyLine Line.isHiding || u.isUnreadable) := by
  obtain ⟨name, kind, comment⟩ := u
  cases comment with
  | none => rfl
  | some comment => exact Line.any_or Line.isHiding Line.isUnclosed (Line.split comment)

/-- A public page is made of the units that are not suppressed. -/
theorem filter_isVisible_documentAll {o : Markdown.Options} (h : o.showPrivate = false) :
    (documentAll us).filter (Markdown.isVisible o) =
      (us.filter fun u ↦ !u.isSuppressed).map reading := by
  rw [documentAll_eq, List.filter_map, List.filter_filter]
  refine congrArg (List.map reading) (List.filter_congr fun u _ ↦ ?_)
  rw [Function.comp_apply, Markdown.isVisible, h, isHidden_reading, isSuppressed_eq,
    Bool.false_or, Bool.not_or]

end DocUnit

/-! ## Public pages -/

namespace Format

open DocUnit (documentAll)

/-- Suppressed units leave no trace on a public page: listings that agree on all the others have the
same page.  And the units of a listing whose comments can be read are documented, in order, with the
names and the kinds that they have. -/
theorem render_eq_of_suppressed :
    (∀ (codeLang : Text) (us us' : List DocUnit),
      (us.filter fun u ↦ !u.isSuppressed) = (us'.filter fun u ↦ !u.isSuppressed) →
        markdown.render ⟨codeLang, false⟩ (documentAll us) =
          markdown.render ⟨codeLang, false⟩ (documentAll us')) ∧
    ∀ us : List DocUnit,
      ((documentAll us).map fun d ↦ (d.name, d.kind)) =
        (us.filter fun u ↦ !u.isUnreadable).map fun u ↦ (u.name, u.kind) := by
  constructor
  · intro codeLang us us' h
    have hvisible : (documentAll us).filter (Markdown.isVisible ⟨codeLang, false⟩) =
        (documentAll us').filter (Markdown.isVisible ⟨codeLang, false⟩) := by
      rw [DocUnit.filter_isVisible_documentAll us rfl, h,
        DocUnit.filter_isVisible_documentAll us' rfl]
    rw [render, render, Markdown.page, Markdown.page, hvisible]
  · intro us
    rw [DocUnit.documentAll_eq, List.map_map]
    rfl

/-- A marker in the middle of an example hides a unit, and so does one with space around it; a
comment that cannot be read takes its unit away. -/
theorem render_eq_of_suppressed_example :
    let shown : DocUnit := ⟨"b".toList, .classType, some "@returns x".toList⟩
    let us : List DocUnit := [
      ⟨"a".toList, .function, some "Sum.\n@example\n  @private\n@todo b".toList⟩, shown,
      ⟨"b".toList, .module, some "@param p\n @throws [E".toList⟩]
    let us' : List DocUnit := [
      ⟨"Index".toList, .property, some "@copyright\n\t@ignore ".toList⟩, shown]
    (us.filter fun u ↦ !u.isSuppressed) = (us'.filter fun u ↦ !u.isSuppressed) ∧
      markdown.render ⟨"rs".toList, false⟩ (documentAll us) =
        markdown.render ⟨"rs".toList, false⟩ (documentAll us') ∧
      ((documentAll us).map fun d ↦ (d.name, d.kind)) =
        [("a".toList, .function), ("b".toList, .classType)] := by
  intro shown us us'
  have hfilter : (us.filter fun u ↦ !u.isSuppressed) = us'.filter fun u ↦ !u.isSuppressed := by
    decide
  obtain ⟨hpage, hkept⟩ := render_eq_of_suppressed
  refine ⟨hfilter, hpage "rs".toList us us' hfilter, ?_⟩
  rw [hkept us]
  decide

end Format

end DocComment
