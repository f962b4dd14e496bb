import DocComment.Proofs.Document.Rearrange
import DocComment.Proofs.Prose.Layout

/-!
# How descriptions are laid out

A line of the preamble that is not blank is an item with a mark, which begins a line of its own, or
words that go on with the text before (`Description.pieceOf`).  The description is these pieces with
the gaps that the blank lines between them make (`Description.ofPreamble_eq_layOut`).

The one line that does not follow this rule is a mark `<ol>` with nothing behind it.  Its item is
empty, so the text still ends with the line feed in front of it, and no space is put before the next
words.
-/

namespace DocComment

open Unicode

namespace Text

theorem after?_eq (t start : Text) :
    t.after? start = if start <+: t then some (t.drop start.length) else none := by
  split
  case isTrue hprefix =>
    obtain ⟨rest, rfl⟩ := hprefix
    rw [after?_eq_some_iff, List.drop_left]
  case isFalse hnot =>
    rw [Option.eq_none_iff_forall_ne_some]
    exact fun rest hrest ↦ hnot ⟨rest, (after?_eq_some_iff.1 hrest).symm⟩

end Text

namespace Description

open Prose (Piece addPiece pieces layOut wordsOf)

variable {line : Text} {preamble : List Text}

/-! ## Items -/

/-- The marks of items. -/
def marks : List Text := ["- ".toList, "<ul>".toList, "<ol>".toList]

/-- What a line of the preamble is turned into when it is not blank: a line with a mark is an item,
and other lines are words. -/
def pieceOf (line : Text) : Piece :=
  let t := line.trim
  if "- ".toList <+: t then ⟨t, true⟩
  else if "<ul>".toList <+: t then ⟨"- ".toList ++ t.drop 4, true⟩
  else if "<ol>".toList <+: t then ⟨t.drop 4, true⟩
  else ⟨t, false⟩

/-- What a trimmed line is turned into, by the mark that it begins with. -/
inductive TurnsInto : Text → Piece → Prop
  | dash (rest : Text) : TurnsInto ("- ".toList ++ rest) ⟨"- ".toList ++ rest, true⟩
  | bullet (rest : Text) : TurnsInto ("<ul>".toList ++ rest) ⟨"- ".toList ++ rest, true⟩
  | number (rest : Text) : TurnsInto ("<ol>".toList ++ rest) ⟨rest, true⟩
  | words (t : Text) (h : ∀ mark ∈ marks, ¬mark <+: t) : TurnsInto t ⟨t, false⟩

theorem turnsInto_pieceOf (line : Text) : TurnsInto line.trim (pieceOf line) := by
  simp only [pieceOf]
  split
  case isTrue hdash =>
    obtain ⟨rest, hrest⟩ := hdash
    rw [← hrest]
    exact .dash rest
  case isFalse hdash =>
    split
    case isTrue hul =>
      obtain ⟨rest, hrest⟩ := hul
      rw [← hrest]
      exact .bullet rest
    case isFalse hul =>
      split
      case isTrue hol =>
        obtain ⟨rest, hrest⟩ := hol
        rw [← hrest]
        exact .number rest
      case isFalse hol =>
        refine .words line.trim (List.forall_mem_cons.2 ⟨hdash, ?_⟩)
        exact List.forall_mem_cons.2 ⟨hul, List.forall_mem_singleton.2 hol⟩

theorem step_eq (h : line.isBlank = false) : step line = (pieceOf line).step := by
  have hne : ¬line.trim.isEmpty = true := fun hnil ↦ Text.trim_ne_nil h (List.isEmpty_iff.1 hnil)
  simp only [step, pieceOf, Text.after?_eq]
  rw [if_neg hne]
  by_cases hdash : "- ".toList <+: line.trim
  case pos =>
    rw [if_pos hdash, if_pos hdash]
    rfl
  case neg =>
    rw [if_neg hdash, if_neg hdash]
    by_cases hul : "<ul>".toList <+: line.trim
    case pos =>
      rw [if_pos hul, if_pos hul]
      rfl
    case neg =>
      rw [if_neg hul, if_neg hul]
      by_cases hol : "<ol>".toList <+: line.trim
      case pos =>
        rw [if_pos hol, if_pos hol]
        rfl
      case neg =>
        rw [if_neg hol, if_neg hol]
        rfl

theorem add_step (p : Prose) (line : Text) : p.add (step line) = addPiece pieceOf p line := by
  rw [addPiece]
  cases h : line.isBlank with
  | true => rw [step_of_isBlank h, if_pos rfl, Prose.add]
  | false => rw [step_eq h, if_neg Bool.false_ne_true]

theorem ofPreamble_eq_finish (preamble : List Text) :
    ofPreamble preamble = (preamble.foldl (addPiece pieceOf) {}).finish := by
  rw [ofPreamble, List.foldl_map]
  simp only [add_step]

/-! ## What an item ends with -/

/-- A piece is not blank, and it ends within a line: a mark `<ul>` leaves its hyphen and its space
even if nothing stands behind it. -/
theorem inLine_pieceOf (h : line.isBlank = false) (hol : line.trim ≠ "<ol>".toList) :
    (pieceOf line).text.InLine ∧ (pieceOf line).text.isBlank = false := by
  have hend : ∀ start rest : Text, line.trim = start ++ rest → rest ≠ [] →
      rest.InLine ∧ rest.isBlank = false :=
    fun _ _ happend hne ↦
      ⟨Text.inLine_of_trim_eq_append happend hne, Text.isBlank_of_trim_append happend hne⟩
  have hturns := turnsInto_pieceOf line
  generalize ht : line.trim = t, pieceOf line = x at hturns
  cases hturns with
  | dash rest => exact hend [] _ ht (List.cons_ne_nil _ _)
  | bullet rest =>
    refine ⟨?_, rfl⟩
    rcases eq_or_ne rest [] with rfl | hne
    · exact ⟨' ', rfl, by decide⟩
    · exact (hend _ rest ht hne).1.append _
  | number rest =>
    refine hend _ rest ht ?_
    rintro rfl
    exact hol (ht.trans (List.append_nil _))
  | words t => exact hend [] t ht (ht ▸ Text.trim_ne_nil h)

/-! ## Descriptions -/

/-- The description that lines amount to, when no mark `<ol>` stands alone. -/
theorem ofPreamble_eq_layOut (h : ∀ line ∈ preamble, line.trim ≠ "<ol>".toList) :
    ofPreamble preamble =
      if pieces pieceOf 0 preamble = [] then none
      else some (layOut (pieces pieceOf 0 preamble)).trim := by
  have hpieces : ∀ x ∈ pieces pieceOf 0 preamble, x.2.text.isBlank = false := by
    intro x hx
    obtain ⟨spaced, hspaced, rfl⟩ := List.mem_map.1 hx
    obtain ⟨hmem, hblank⟩ := Line.mem_of_mem_spaced hspaced
    exact (inLine_pieceOf hblank (h spaced.2 hmem)).2
  rw [ofPreamble_eq_finish,
    Prose.finish_foldl_addPiece 0 fun line hline hblank ↦ (inLine_pieceOf hblank (h line hline)).1]
  cases hcons : pieces pieceOf 0 preamble with
  | nil => rfl
  | cons first rest =>
    rw [hcons] at hpieces
    have hfirst := (List.forall_mem_cons.1 hpieces).1
    have hblank : Text.isBlank (first.2.text ++ layOut rest) = false := by
      rw [Text.isBlank, List.all_append, ← Text.isBlank, hfirst, Bool.false_and]
    rw [if_neg (List.cons_ne_nil first rest), Prose.layOut_cons, List.append_assoc,
      Text.trim_append_of_isBlank (first.2.isBlank_gap first.1)]
    exact if_neg (Bool.eq_false_iff.1 hblank)

/-- Without marks, a preamble is running text. -/
theorem ofPreamble_eq_reflow (h : ∀ line ∈ preamble, ∀ mark ∈ marks, ¬mark <+: line.trim) :
    ofPreamble preamble = Prose.reflow [] preamble := by
  have hwords : ∀ line ∈ preamble, pieceOf line = wordsOf line := by
    intro line hline
    have hmark := h line hline
    have hturns := turnsInto_pieceOf line
    rw [wordsOf]
    generalize line.trim = t, pieceOf line = x at hmark hturns
    cases hturns with
    | dash rest => exact absurd (List.prefix_append _ rest) (hmark _ (by decide))
    | bullet rest => exact absurd (List.prefix_append _ rest) (hmark _ (by decide))
    | number rest => exact absurd (List.prefix_append _ rest) (hmark _ (by decide))
    | words t => rfl
  have hstart : Prose.seeded [] = {} := rfl
  rw [ofPreamble_eq_finish, Prose.reflow, hstart, Prose.addLine_eq_addPiece]
  refine congrArg Prose.finish (List.foldl_ext _ _ _ fun p line hline ↦ ?_)
  rw [addPiece, addPiece, hwords line hline]

end Description

/-- The description of a comment in whose preamble no mark `<ol>` stands alone: the pieces that its
lines turn into, each behind the gap that the blank lines before it make, trimmed; and there is
none if all lines are blank.  If no line has a mark, it is what running text is collected into. -/
theorem description_eq_layOut {comment : Text}
    (h : ∀ line ∈ (Document.ofText comment).preamble, line.trim ≠ "<ol>".toList) :
    let preamble := (Document.ofText comment).preamble
    let items := Prose.pieces Description.pieceOf 0 preamble
    Description.ofPreamble preamble =
        (if items = [] then none else some (Prose.layOut items).trim) ∧
      ((∀ line ∈ preamble, ∀ mark ∈ Description.marks, ¬mark <+: line.trim) →
        Description.ofPreamble preamble = Prose.reflow [] preamble) ∧
      ∀ r, parse comment = .ok r → r.description = Description.ofPreamble preamble := by
  intro preamble items
  refine ⟨Description.ofPreamble_eq_layOut h, Description.ofPreamble_eq_reflow, fun r hr ↦ ?_⟩
  obtain ⟨-, rfl⟩ := Document.parse_eq_ok_iff.1 hr
  rfl

/-- Items of all kinds, with and without blank lines before them. -/
theorem description_eq_layOut_steps :
    let comment := "\nTo do:\n\n\n- a\n <ul>\n<ol> 2. b\nc\n\nd\n\n@since 1".toList
    (∀ line ∈ (Document.ofText comment).preamble, line.trim ≠ "<ol>".toList) ∧
      Description.ofPreamble (Document.ofText comment).preamble =
        some "To do:\n\n- a\n- \n 2. b c\nd".toList := by
  intro comment
  have h : ∀ line ∈ (Document.ofText comment).preamble, line.trim ≠ "<ol>".toList := by decide
  exact ⟨h, (description_eq_layOut h).1.trans (by decide)⟩

/-- The empty item of a mark `<ol>` that stands alone: no space follows it. -/
example : Description.ofPreamble [['a'], "<ol>".toList, ['b']] = some "a\nb".toList := by
  decide

end DocComment
