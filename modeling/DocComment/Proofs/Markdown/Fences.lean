import DocComment.Proofs.Document.Rearrange
import DocComment.Proofs.Markdown.Lines

/-!
# Fences around examples

A line of three or more backticks opens a block, which ends at the first line below that consists of
as many backticks or more (`fencedBlock?`).  The code of an example stands between two fences of
three backticks, as it is.  So the block that the first fence opens ends within the code if a line
of the code looks like a fence itself; otherwise the second fence ends it, and the block is the code
(`fencedBlock_eq_code_iff`).
-/

namespace DocComment.Markdown

variable {t : Text} {o : Options} {r : Record} {e : Example}

/-! ## Fenced blocks -/

/-- How many backticks a line begins with. -/
def ticks (line : Text) : Nat := (line.takeWhile (· = '\x60')).length

/-- The number of backticks of a line that opens a block: at least three, at the left edge of the
page, and none after them. -/
def openingFence? (line : Text) : Option Nat :=
  if 3 ≤ ticks line ∧ '\x60' ∉ line.drop (ticks line) then some (ticks line) else none

/-- Whether a line ends a block that was opened with `n` backticks: it has at most three spaces,
then at least `n` backticks, and then only spaces and tabs. -/
def closesFence (n : Nat) (line : Text) : Bool :=
  let marks := line.dropWhile (· = ' ')
  (line.takeWhile (· = ' ')).length ≤ 3 && n ≤ ticks marks &&
    (marks.drop (ticks marks)).all fun c ↦ c = ' ' || c = '\t'

/-- The lines of the block that a line opens, given its place: those below it, up to the first one
that ends the block. -/
def fencedBlock? (lines : List Text) (i : Nat) : Option (List Text) :=
  (lines[i]?.bind openingFence?).map fun n ↦ (lines.drop (i + 1)).takeWhile (!closesFence n ·)

theorem ticks_append (n : Nat) (ht : '\x60' ∉ t) : ticks (List.replicate n '\x60' ++ t) = n := by
  have hnone : t.takeWhile (· = '\x60') = [] := by
    rw [List.takeWhile_eq_nil_iff]
    intro hpos hfirst
    exact ht (of_decide_eq_true hfirst ▸ List.getElem_mem hpos)
  rw [ticks, List.takeWhile_append_of_pos, hnone, List.append_nil, List.length_replicate]
  intro c hc
  exact decide_eq_true (List.eq_of_mem_replicate hc)

theorem openingFence?_append {n : Nat} (hn : 3 ≤ n) (ht : '\x60' ∉ t) :
    openingFence? (List.replicate n '\x60' ++ t) = some n := by
  rw [openingFence?, ticks_append n ht, List.drop_left' List.length_replicate, if_pos ⟨hn, ht⟩]

theorem getElem?_append_length (above : List Text) (line : Text) (below : List Text) :
    (above ++ line :: below)[above.length]? = some line := by
  rw [List.getElem?_append_right le_rfl, Nat.sub_self, List.getElem?_cons_zero]

/-- A block ends at the first of the lines in it that looks like a fence, or else at the fence below
them. -/
theorem fencedBlock?_append {opening closing : Text} {n : Nat}
    (hopening : openingFence? opening = some n) (hclosing : closesFence n closing = true)
    (above inside below : List Text) :
    fencedBlock? (above ++ opening :: (inside ++ closing :: below)) above.length =
      some (inside.takeWhile (!closesFence n ·)) := by
  have hbelow : (closing :: below).takeWhile (!closesFence n ·) = [] :=
    List.takeWhile_cons_of_neg (by simp [hclosing])
  have hinside : (inside ++ closing :: below).takeWhile (!closesFence n ·) =
      inside.takeWhile (!closesFence n ·) := by
    rw [List.takeWhile_append, hbelow, List.append_nil]
    split
    case isTrue h => exact ((List.takeWhile_prefix _).eq_of_length h).symm
    case isFalse => rfl
  rw [fencedBlock?, getElem?_append_length, Option.bind_some, hopening, Option.map_some,
    List.append_cons above, List.drop_left' (by simp), hinside]

/-! ## Examples -/

/-- The pieces of a body above the fences of an example. -/
def piecesAboveFence (codeLang : Text) (r : Record) (i : Nat) (e : Example) : List Piece :=
  piecesAbove r ++ .heading "Examples".toList ::
    (r.examples.take i).flatMap (exampleBlock codeLang) ++ (e.caption.map paragraph).getD []

/-- The place of the fence above the code of an example among the lines of a body. -/
def fencePlace (o : Options) (r : Record) (i : Nat) (e : Example) : Nat :=
  (pieceLines (piecesAboveFence o.codeLang r i e)).length

/-- The fences of an example and its code stand between what is above and what is below. -/
theorem exists_pieces_eq {i : Nat} (hi : r.examples[i]? = some e) (o : Options) :
    ∃ below, pieces o r = piecesAboveFence o.codeLang r i e ++
      .text ("\x60\x60\x60".toList ++ o.codeLang) :: .text e.code ::
        .text "\x60\x60\x60".toList :: below := by
  have hne : r.examples.isEmpty = false := by
    rw [List.isEmpty_eq_false_iff]
    exact List.ne_nil_of_mem (List.mem_of_getElem? hi)
  have hblocks : r.examples.flatMap (exampleBlock o.codeLang) =
      (r.examples.take i).flatMap (exampleBlock o.codeLang) ++ (exampleBlock o.codeLang e ++
        (r.examples.drop (i + 1)).flatMap (exampleBlock o.codeLang)) := by
    obtain ⟨hlt, rfl⟩ := List.getElem?_eq_some_iff.1 hi
    rw [← List.flatMap_cons, ← List.flatMap_append, List.getElem_cons_drop, List.take_append_drop]
  refine ⟨.text [] :: ((r.examples.drop (i + 1)).flatMap (exampleBlock o.codeLang) ++
    piecesBelow r), ?_⟩
  rw [pieces_eq, exampleSection, hne, hblocks, exampleBlock, piecesAboveFence]
  simp

/-- The lines of a body above the fence of an example, the fence, the code, and the other fence. -/
theorem exists_paragraphs_body_eq {i : Nat} (hi : r.examples[i]? = some e)
    (hfeed : '\n' ∉ o.codeLang) :
    ∃ below, (body o r).paragraphs = pieceLines (piecesAboveFence o.codeLang r i e) ++
      ("\x60\x60\x60".toList ++ o.codeLang) :: (e.code.paragraphs ++
        "\x60\x60\x60".toList :: below) := by
  obtain ⟨below, hpieces⟩ := exists_pieces_eq hi o
  have hfence : '\n' ∉ "\x60\x60\x60".toList ++ o.codeLang := List.not_mem_append (by decide) hfeed
  have hne : pieces o r ≠ [] := by
    rw [hpieces]
    exact List.append_ne_nil_of_right_ne_nil _ (List.cons_ne_nil _ _)
  refine ⟨pieceLines below, ?_⟩
  rw [paragraphs_body hne, hpieces, pieceLines_append, pieceLines, pieceLines, List.flatMap_cons,
    List.flatMap_cons, List.flatMap_cons, Piece.toText_text, Text.paragraphs_of_notMem hfence]
  rfl

/-- The block that is opened above the code of an example is the code when no line of it looks like
a fence, and only then.  The lines of the body may have others around them, as they have on a page
(`paragraphs_body_infix_page`). -/
theorem fencedBlock_eq_code_iff {comment : Text} (h : parse comment = .ok r)
    (hfeed : '\n' ∉ o.codeLang) (htick : '\x60' ∉ o.codeLang) {i : Nat}
    (hi : r.examples[i]? = some e) (top bottom : List Text) :
    let lines := top ++ (body o r).paragraphs ++ bottom
    let place := top.length + fencePlace o r i e
    lines[place]? = some ("\x60\x60\x60".toList ++ o.codeLang) ∧
    e.code.OnlyFeeds ∧
    (fencedBlock? lines place = some e.code.paragraphs ↔
      ∀ line ∈ e.code.paragraphs, closesFence 3 line = false) := by
  intro lines place
  obtain ⟨below, hbody⟩ := exists_paragraphs_body_eq hi hfeed
  have hlines : lines = (top ++ pieceLines (piecesAboveFence o.codeLang r i e)) ++
      ("\x60\x60\x60".toList ++ o.codeLang) :: (e.code.paragraphs ++
        "\x60\x60\x60".toList :: (below ++ bottom)) := by
    simp [lines, hbody]
  have hplace : place = (top ++ pieceLines (piecesAboveFence o.codeLang r i e)).length :=
    List.length_append.symm
  have hopening : openingFence? ("\x60\x60\x60".toList ++ o.codeLang) = some 3 :=
    openingFence?_append (le_refl 3) htick
  have hcode : e.code.OnlyFeeds := by
    obtain ⟨-, rfl⟩ := Document.parse_eq_ok_iff.1 h
    have hrecord := Document.wellFormed_record (Document.unbroken_ofText comment)
    exact (hrecord.examples e (List.mem_of_getElem? hi)).code.onlyFeeds
  rw [hlines, hplace]
  refine ⟨getElem?_append_length _ _ _, hcode, ?_⟩
  rw [fencedBlock?_append hopening (by decide), Option.some_inj, List.takeWhile_eq_self_iff]
  simp only [Bool.not_eq_true']

/-- Four spaces in front keep a line from ending the block, and so does a letter behind. -/
theorem fencedBlock_eq_code_indented :
    let comment := "@returns x\n@example a\n    \x60\x60\x60\n\x60\x60\x60 y".toList
    let e : Example := ⟨some "a".toList, "    \x60\x60\x60\n\x60\x60\x60 y".toList⟩
    let r : Record := { returns := some "x".toList, examples := [e] }
    let o : Options := { codeLang := "py".toList }
    let lines := ["### f".toList] ++ (body o r).paragraphs ++ [[]]
    parse comment = .ok r ∧ lines[7]? = some "\x60\x60\x60py".toList ∧
      fencedBlock? lines 7 = some ["    \x60\x60\x60".toList, "\x60\x60\x60 y".toList] := by
  intro comment e r o lines
  have h : parse comment = .ok r := by decide
  have hi : r.examples[0]? = some e := rfl
  have hfeed : '\n' ∉ o.codeLang := by decide
  have htick : '\x60' ∉ o.codeLang := by decide
  have hplace : 1 + fencePlace o r 0 e = 7 := by decide
  obtain ⟨hline, -, hblock⟩ :=
    fencedBlock_eq_code_iff h hfeed htick hi ["### f".toList] [[]]
  rw [List.length_singleton, hplace] at hline hblock
  exact ⟨h, hline, hblock.2 (by decide)⟩

/-- Not every block is the code of its example: the first line of this one ends the block. -/
theorem not_fencedBlock_eq_code :
    ¬∀ (comment : Text) (r : Record) (o : Options), parse comment = .ok r → '\n' ∉ o.codeLang →
      '\x60' ∉ o.codeLang → ∀ (i : Nat) (e : Example), r.examples[i]? = some e →
        fencedBlock? (body o r).paragraphs (fencePlace o r i e) = some e.code.paragraphs := by
  intro hall
  let o : Options := {}
  let e : Example := ⟨none, "\x60\x60\x60\nx".toList⟩
  have hparse : parse "@example\n\x60\x60\x60\nx".toList = .ok { examples := [e] } := by decide
  have hblock := hall _ _ o hparse (by decide) (by decide) 0 e rfl
  revert hblock
  decide

end DocComment.Markdown
