import DocComment.Proofs.Markdown.Lines
import Mathlib.Data.List.SplitBy

/-!
# Quotations and lists read back

A quotation puts a mark in front of every line of a text, and a list puts a bullet in front of every
item and two spaces in front of its further lines.  So both hold what they are given, whatever marks
or line feeds are in it, and both can be read back.

For a quotation, the lines between those of the text are left out and the marks are taken off
(`unquote_blockquote`).  For a list, the lines are cut where a bullet begins one
(`readItems_listLines`).  No line that belongs to an item is taken for the start of another one: the
bullets are where the items begin and nowhere else (`isItemStart_iff_of_getElem?`).
-/

namespace DocComment.Markdown

open Text (join)

/-! ## Quotations -/

/-- Every second line, the first one included. -/
def everySecond : List Text → List Text
  | [] => []
  | [line] => [line]
  | line :: _ :: rest => line :: everySecond rest

/-- The text that a quotation quotes. -/
def unquote (quotation : Text) : Text :=
  join ['\n'] ((everySecond quotation.paragraphs).map (·.drop 2))

theorem everySecond_intersperse (between : Text) (lines : List Text) :
    everySecond (lines.intersperse between) = lines := by
  induction lines with
  | nil => rfl
  | cons line rest ih =>
    cases rest with
    | nil => rfl
    | cons next rest => rw [List.intersperse_cons_cons, everySecond, ih]

theorem drop_quoteLine (line : Text) : (quoteLine line).drop 2 = line := by
  rw [quoteLine]
  split
  case isTrue hempty =>
    rw [List.isEmpty_iff.1 hempty]
    rfl
  case isFalse => rfl

/-- The text is read back from its quotation, so different texts have different quotations. -/
theorem unquote_blockquote (t : Text) : unquote (blockquote t) = t := by
  have hdropped : (t.paragraphs.map quoteLine).map (·.drop 2) = t.paragraphs := by
    rw [List.map_map]
    exact List.map_id'' drop_quoteLine t.paragraphs
  rw [unquote, paragraphs_blockquote, everySecond_intersperse, hdropped, Text.join_paragraphs]

/-! ## Lists -/

/-- Whether a line begins with a bullet. -/
def isItemStart (line : Text) : Bool := "* ".toList.isPrefixOf line

/-- The lines of the items of a list. -/
def listLines (items : List Text) : List Text := items.flatMap fun item ↦ (bullet item).paragraphs

/-- The place of the first line of an item, given how many items come before it. -/
def itemPlace (items : List Text) (k : Nat) : Nat := (listLines (items.take k)).length

/-- The items that some lines list: a bullet begins an item, and any other line goes on with it. -/
def readItems (lines : List Text) : List Text :=
  (lines.splitBy fun _ next ↦ !isItemStart next).map fun item ↦ join ['\n'] (item.map (·.drop 2))

theorem isItemStart_bullet (line : Text) : isItemStart ("* ".toList ++ line) = true :=
  List.isPrefixOf_iff_prefix.2 (List.prefix_append _ line)

theorem isItemStart_margin (line : Text) : isItemStart ("  ".toList ++ line) = false := rfl

theorem listLines_cons (item : Text) (rest : List Text) :
    listLines (item :: rest) = (bullet item).paragraphs ++ listLines rest := rfl

theorem itemPlace_succ (item : Text) (rest : List Text) (k : Nat) :
    itemPlace (item :: rest) (k + 1) = (bullet item).paragraphs.length + itemPlace rest k := by
  rw [itemPlace, List.take_succ_cons, listLines_cons, List.length_append, itemPlace]

/-- The lines of an item: a bullet begins the first of them, and spaces the others. -/
theorem exists_paragraphs_bullet (item : Text) :
    ∃ first more, (bullet item).paragraphs = first :: more ∧ isItemStart first = true ∧
      ∀ line ∈ more, isItemStart line = false ∧ "  ".toList <+: line := by
  obtain ⟨line, more, hitem⟩ := List.exists_cons_of_ne_nil item.paragraphs_ne_nil
  refine ⟨_, _, paragraphs_bullet hitem, isItemStart_bullet line, ?_⟩
  rw [List.forall_mem_map]
  exact fun l _ ↦ ⟨isItemStart_margin l, List.prefix_append _ l⟩

/-- The bullets are where items begin, and every other line has spaces in front. -/
theorem isItemStart_iff_of_getElem? {items : List Text} {i : Nat} {line : Text}
    (h : (listLines items)[i]? = some line) :
    (isItemStart line ↔ ∃ k < items.length, i = itemPlace items k) ∧
      (¬isItemStart line → "  ".toList <+: line) := by
  induction items generalizing i with
  | nil => cases h
  | cons item rest ih =>
    obtain ⟨first, more, hitem, hfirst, hmore⟩ := exists_paragraphs_bullet item
    have hlength : (bullet item).paragraphs.length = more.length + 1 := by
      rw [hitem, List.length_cons]
    have hplace : itemPlace (item :: rest) 0 = 0 := rfl
    rw [listLines_cons, List.getElem?_append] at h
    split at h
    case isTrue hi =>
      -- the line belongs to the first item
      rw [hitem] at h
      cases i with
      | zero =>
        cases h
        exact ⟨iff_of_true hfirst ⟨0, Nat.succ_pos _, rfl⟩, absurd hfirst⟩
      | succ i =>
        obtain ⟨hstart, hspaces⟩ := hmore line (List.mem_of_getElem? h)
        refine ⟨iff_of_false (Bool.eq_false_iff.1 hstart) ?_, fun _ ↦ hspaces⟩
        rintro ⟨k, -, hk⟩
        cases k with
        | zero => omega
        | succ k =>
          rw [itemPlace_succ] at hk
          omega
    case isFalse hi =>
      obtain ⟨hstart, hspaces⟩ := ih h
      refine ⟨hstart.trans ⟨?_, ?_⟩, hspaces⟩
      · rintro ⟨k, hk, hplace⟩
        refine ⟨k + 1, Nat.succ_lt_succ hk, ?_⟩
        rw [itemPlace_succ]
        omega
      · rintro ⟨k, hk, hplace⟩
        cases k with
        | zero => omega
        | succ k =>
          rw [itemPlace_succ] at hplace
          exact ⟨k, Nat.lt_of_succ_lt_succ hk, by omega⟩

/-- Without bullet and spaces, the lines of an item are those of the text. -/
theorem join_drop_paragraphs_bullet (item : Text) :
    join ['\n'] ((bullet item).paragraphs.map (·.drop 2)) = item := by
  obtain ⟨line, more, hitem⟩ := List.exists_cons_of_ne_nil item.paragraphs_ne_nil
  have hdropped : (bullet item).paragraphs.map (·.drop 2) = item.paragraphs := by
    rw [paragraphs_bullet hitem, hitem, List.map_cons, List.map_map]
    exact congrArg (line :: ·) (List.map_id'' (fun _ ↦ rfl) more)
  rw [hdropped, Text.join_paragraphs]

/-- The items are read back from the lines of their list. -/
theorem readItems_listLines (items : List Text) : readItems (listLines items) = items := by
  have hcut : (listLines items).splitBy (fun _ next ↦ !isItemStart next) =
      items.map fun item ↦ (bullet item).paragraphs := by
    refine List.splitBy_flatten ?_ ?_ ?_
    · rw [List.mem_map]
      rintro ⟨item, -, hnil⟩
      exact Text.paragraphs_ne_nil _ hnil
    · rw [List.forall_mem_map]
      intro item _
      obtain ⟨first, more, hitem, -, hmore⟩ := exists_paragraphs_bullet item
      rw [hitem]
      refine (List.pairwise_cons.2 ⟨?_, List.pairwise_of_forall_mem_list ?_⟩).isChain
      · exact fun next hnext ↦ by rw [(hmore next hnext).1]; rfl
      · exact fun _ _ next hnext ↦ by rw [(hmore next hnext).1]; rfl
    · rw [List.isChain_map]
      refine (List.pairwise_of_forall_mem_list fun item _ next _ ↦ ?_).isChain
      obtain ⟨first, more, hnext, hfirst, -⟩ := exists_paragraphs_bullet next
      refine ⟨Text.paragraphs_ne_nil _, Text.paragraphs_ne_nil _, ?_⟩
      simp only [hnext, List.head_cons, hfirst, Bool.not_true]
  rw [readItems, hcut, List.map_map]
  exact List.map_id'' join_drop_paragraphs_bullet items

theorem pieceLines_listSection (title : Text) {items : List Text} (h : items ≠ []) :
    pieceLines (listSection title items) =
      (Piece.heading title).toText.paragraphs ++ listLines items ++ [[]] := by
  have hlines : pieceLines (items.map fun item ↦ Piece.text (bullet item)) = listLines items := by
    rw [pieceLines, List.flatMap_map]
    rfl
  rw [listSection, if_neg (by simpa using h), List.cons_append, ← List.singleton_append,
    pieceLines_append, pieceLines_append, hlines, ← List.append_assoc]
  congr 2
  exact List.flatMap_singleton ..

/-- A quotation marks every line, and the text is read back from it.  The lines of a list, which are
all that stands between its heading and the empty line at its end, begin with a bullet where an item
begins and with two spaces everywhere else, and the items are read back from them. -/
theorem unquote_blockquote_and_readItems (t title : Text) {items : List Text} (h : items ≠ []) :
    ((∀ line ∈ (blockquote t).paragraphs, line.head? = some '>') ∧
      unquote (blockquote t) = t) ∧
    pieceLines (listSection title items) =
      (Piece.heading title).toText.paragraphs ++ listLines items ++ [[]] ∧
    (∀ i line, (listLines items)[i]? = some line →
      ("* ".toList <+: line ↔ ∃ k < items.length, i = itemPlace items k) ∧
      (¬"* ".toList <+: line → "  ".toList <+: line)) ∧
    readItems (listLines items) = items := by
  refine ⟨⟨fun _ ↦ head?_of_mem_blockquote, unquote_blockquote t⟩, pieceLines_listSection title h,
    fun i line hline ↦ ?_, readItems_listLines items⟩
  rw [← List.isPrefixOf_iff_prefix]
  exact isItemStart_iff_of_getElem? hline

/-- Marks and bullets in a text, empty lines, and line feeds at both ends. -/
theorem unquote_blockquote_and_readItems_marked :
    let t := "> a\n\n* b\n".toList
    let items := ["x\n* y\n\n  z".toList, [], "\n".toList]
    blockquote t = "> > a\n>\n>\n>\n> * b\n>\n>".toList ∧ unquote (blockquote t) = t ∧
      listLines items = ["* x", "  * y", "  ", "    z", "* ", "* ", "  "].map String.toList ∧
      pieceLines (listSection "Todo".toList items) =
        "#### Todo".toList :: [] :: listLines items ++ [[]] ∧
      itemPlace items 1 = 4 ∧ readItems (listLines items) = items := by
  intro t items
  obtain ⟨⟨-, hquote⟩, hsection, -, hitems⟩ :=
    unquote_blockquote_and_readItems t "Todo".toList (List.cons_ne_nil _ _ : items ≠ [])
  exact ⟨by decide, hquote, by decide, hsection, by decide, hitems⟩

end DocComment.Markdown
