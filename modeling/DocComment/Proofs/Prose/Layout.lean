import DocComment.Proofs.Text.Trim
import DocComment.Prose

/-!
# How prose is laid out

The text that some lines amount to, said without collecting it: the lines that are not blank follow
one another, and what stands between two of them depends only on the number of blank lines there
(`Prose.reflow_eq_spaced`).

While prose is collected, it is a text that ends within a line, followed by one line feed for each
blank line since (`Prose.Ends`).  The next piece turns these line feeds into the gap in front of it,
or puts in a separator if there are none (`Prose.Ends.add`); the line feeds that are left at the end
are trimmed off.  None of this depends on how a line is turned into a piece, as long as the piece
ends within a line, too; so it is stated for any way to do so (`Prose.finish_foldl_addPiece`).
-/

namespace DocComment

open Unicode

/-! ## Lines and the blank lines before them -/

namespace Line

/-- The lines that are not blank, each with the number of blank lines between it and the one before.
The first one counts the blank lines before it, and `blanks` more. -/
def spaced (blanks : Nat) : List Text → List (Nat × Text)
  | [] => []
  | line :: rest =>
    if line.isBlank then spaced (blanks + 1) rest else (blanks, line) :: spaced 0 rest

variable {line : Text} {lines : List Text} {n : Nat}

theorem spaced_cons_of_isBlank (h : line.isBlank = true) (n : Nat) (rest : List Text) :
    spaced n (line :: rest) = spaced (n + 1) rest := if_pos h

theorem spaced_cons (h : line.isBlank = false) (n : Nat) (rest : List Text) :
    spaced n (line :: rest) = (n, line) :: spaced 0 rest := by
  rw [spaced, h]
  rfl

/-- No line is left out but the blank ones, and their order is kept. -/
theorem map_snd_spaced (n : Nat) (lines : List Text) :
    (spaced n lines).map Prod.snd = lines.filter (!·.isBlank) := by
  induction lines generalizing n with
  | nil => rfl
  | cons line rest ih =>
    cases h : line.isBlank with
    | true => rw [spaced_cons_of_isBlank h, ih, List.filter_cons_of_neg (by simp [h])]
    | false => rw [spaced_cons h, List.map_cons, ih, List.filter_cons_of_pos (by simp [h])]

theorem mem_of_mem_spaced {x : Nat × Text} (h : x ∈ spaced n lines) :
    x.2 ∈ lines ∧ x.2.isBlank = false := by
  have hmem : x.2 ∈ lines.filter (!·.isBlank) := map_snd_spaced n lines ▸ List.mem_map_of_mem h
  simpa using hmem

end Line

/-! ## Texts that end within a line -/

namespace Text

variable {t s : Text}

/-- The last character of the text is something else than a line feed. -/
def InLine (t : Text) : Prop := ∃ c ∈ t.getLast?, c ≠ '\n'

theorem InLine.ne_nil (h : t.InLine) : t ≠ [] := by
  rintro rfl
  obtain ⟨c, hc, -⟩ := h
  cases hc

theorem InLine.append (h : s.InLine) (t : Text) : InLine (t ++ s) := by
  rwa [InLine, List.getLast?_append_of_ne_nil t h.ne_nil]

/-- A trimmed text does not end with a line feed, and neither does any end of it. -/
theorem inLine_of_trim_eq_append {start rest : Text} (h : t.trim = start ++ rest)
    (hne : rest ≠ []) : rest.InLine := by
  have hlast := trimEnd_eq_self_iff.1 (isTrimmed_iff.1 (isTrimmed_trim t)).2
  rw [h, List.getLast?_append_of_ne_nil start hne] at hlast
  refine ⟨rest.getLast hne, List.getLast?_eq_getLast_of_ne_nil hne, ?_⟩
  intro hfeed
  have hspace := hlast _ (List.getLast?_eq_getLast_of_ne_nil hne)
  rw [hfeed] at hspace
  cases hspace

theorem inLine_trim (h : t.isBlank = false) : t.trim.InLine :=
  inLine_of_trim_eq_append (List.nil_append t.trim).symm (trim_ne_nil h)

theorem isBlank_replicate_feed (n : Nat) : isBlank (List.replicate n '\n') = true := by
  rw [isBlank, List.all_eq_true]
  intro c hc
  rw [List.eq_of_mem_replicate hc]
  rfl

end Text

namespace Prose

/-! ## Pieces -/

/-- What stands between words and the text that they go on with, when there are so many blank lines
in between. -/
def wordGap (blanks : Nat) : Text := if blanks = 0 then [' '] else List.replicate blanks '\n'

/-- What stands before a text that begins a line of its own. -/
def itemGap (blanks : Nat) : Text := List.replicate (max 1 blanks) '\n'

/-- What a line is turned into: words that go on with the text before, or an item on a line of its
own. -/
structure Piece where
  text : Text
  isItem : Bool
deriving DecidableEq, Repr

namespace Piece

variable (x : Piece)

/-- What stands before the piece, when there are so many blank lines between it and the text
before. -/
def gap (blanks : Nat) : Text := if x.isItem then itemGap blanks else wordGap blanks

/-- The step that adds the piece. -/
def step : Step := if x.isItem then .item x.text else .words x.text

/-- The least that stands before the piece. -/
def separator : Char := if x.isItem then '\n' else ' '

theorem gap_zero : x.gap 0 = [x.separator] := by
  cases h : x.isItem <;> simp [gap, separator, h, itemGap, wordGap]

theorem gap_succ (n : Nat) : x.gap (n + 1) = List.replicate (n + 1) '\n' := by
  cases h : x.isItem <;> simp [gap, h, itemGap, wordGap]

theorem isBlank_gap (n : Nat) : (x.gap n).isBlank = true := by
  cases n with
  | zero =>
    rw [gap_zero, separator]
    split <;> rfl
  | succ n => rw [gap_succ, Text.isBlank_replicate_feed]

theorem add_step (p : Prose) : p.add x.step = p.addAfter x.separator x.text := by
  cases h : x.isItem <;> simp [step, separator, h, add, addItem, addWords]

end Piece

/-- Pieces behind one another, each with the gap that its number of blank lines makes. -/
def layOut (pieces : List (Nat × Piece)) : Text := pieces.flatMap fun x ↦ x.2.gap x.1 ++ x.2.text

theorem layOut_cons (x : Nat × Piece) (rest : List (Nat × Piece)) :
    layOut (x :: rest) = x.2.gap x.1 ++ x.2.text ++ layOut rest := rfl

/-! ## The text while it is collected -/

/-- The text so far is one that ends within a line, and then so many line feeds. -/
structure Ends (p : Prose) (t : Text) (feeds : Nat) : Prop where
  text_eq : p.text = t ++ List.replicate feeds '\n'
  inLine : t.InLine

variable {p : Prose} {t : Text} {n : Nat} {x : Piece}

namespace Ends

/-- A separator is left out exactly when line feeds are there. -/
theorem isAtStart_iff (h : p.Ends t n) : p.isAtStart = true ↔ n ≠ 0 := by
  rw [Prose.isAtStart_iff, h.text_eq]
  cases n with
  | zero =>
    obtain ⟨c, hc, hne⟩ := h.inLine
    rw [List.replicate_zero, List.append_nil]
    exact ⟨fun hall ↦ absurd (hall c hc) hne, fun hzero ↦ absurd rfl hzero⟩
  | succ n =>
    rw [List.replicate_succ', ← List.append_assoc, List.getLast?_concat]
    exact ⟨fun _ ↦ Nat.succ_ne_zero n, fun _ c hc ↦ (Option.some_inj.1 hc).symm⟩

theorem breakParagraph (h : p.Ends t n) : p.breakParagraph.Ends t (n + 1) := by
  refine ⟨?_, h.inLine⟩
  rw [text_breakParagraph, h.text_eq, if_neg (List.append_ne_nil_of_left_ne_nil h.inLine.ne_nil _),
    List.append_assoc, List.replicate_succ']

/-- The line feeds become the gap before the next piece. -/
theorem add (h : p.Ends t n) (hx : x.text.InLine) :
    (p.add x.step).Ends (t ++ (x.gap n ++ x.text)) 0 := by
  refine ⟨?_, (hx.append _).append t⟩
  rw [x.add_step, text_addAfter, List.replicate_zero, List.append_nil]
  cases n with
  | zero =>
    have hnot : ¬p.isAtStart = true := fun hat ↦ h.isAtStart_iff.1 hat rfl
    rw [if_neg hnot, h.text_eq, List.replicate_zero, List.append_nil, x.gap_zero, List.append_assoc]
  | succ n =>
    rw [if_pos (h.isAtStart_iff.2 (Nat.succ_ne_zero n)), h.text_eq, x.gap_succ, List.append_assoc]

theorem finish_eq (h : p.Ends t n) : p.finish = t.nonBlank? := by
  rw [finish, h.text_eq, Text.nonBlank?_append_blanks (Text.isBlank_replicate_feed n)]

end Ends

/-! ## Lines turned into pieces -/

/-- Take in a line as a piece, or as a paragraph break if it is blank. -/
def addPiece (piece : Text → Piece) (p : Prose) (line : Text) : Prose :=
  if line.isBlank then p.breakParagraph else p.add (piece line).step

section Pieces

variable {piece : Text → Piece} {lines : List Text}

/-- The pieces that lines are turned into, each with the number of blank lines before it. -/
def pieces (piece : Text → Piece) (n : Nat) (lines : List Text) : List (Nat × Piece) :=
  (Line.spaced n lines).map (Prod.map id piece)

theorem pieces_cons_of_isBlank {line : Text} (h : line.isBlank = true) (n : Nat)
    (rest : List Text) : pieces piece n (line :: rest) = pieces piece (n + 1) rest := by
  rw [pieces, Line.spaced_cons_of_isBlank h, pieces]

theorem pieces_cons {line : Text} (h : line.isBlank = false) (n : Nat) (rest : List Text) :
    pieces piece n (line :: rest) = (n, piece line) :: pieces piece 0 rest := by
  rw [pieces, Line.spaced_cons h, pieces]
  rfl

/-- The lines after a text that ends within a line are laid out behind it. -/
theorem Ends.foldl (h : p.Ends t n)
    (hlines : ∀ line ∈ lines, line.isBlank = false → (piece line).text.InLine) :
    ∃ m, (lines.foldl (addPiece piece) p).Ends (t ++ layOut (pieces piece n lines)) m := by
  induction lines generalizing p t n with
  | nil =>
    refine ⟨n, ?_⟩
    rw [pieces, Line.spaced, List.map_nil, layOut, List.flatMap_nil, List.append_nil]
    exact h
  | cons line rest ih =>
    obtain ⟨hline, hrest⟩ := List.forall_mem_cons.1 hlines
    rw [List.foldl_cons, addPiece]
    cases hblank : line.isBlank with
    | true =>
      rw [if_pos rfl, pieces_cons_of_isBlank hblank]
      exact ih h.breakParagraph hrest
    | false =>
      rw [if_neg Bool.false_ne_true, pieces_cons hblank, layOut_cons, ← List.append_assoc]
      exact ih (h.add (hline hblank)) hrest

/-- What lines amount to when they are turned into pieces: blank lines at the beginning and at the
end make no difference. -/
theorem finish_foldl_addPiece (n : Nat)
    (hlines : ∀ line ∈ lines, line.isBlank = false → (piece line).text.InLine) :
    (lines.foldl (addPiece piece) {}).finish =
      match pieces piece n lines with
      | [] => none
      | first :: rest => (first.2.text ++ layOut rest).nonBlank? := by
  induction lines generalizing n with
  | nil => rfl
  | cons line rest ih =>
    obtain ⟨hline, hrest⟩ := List.forall_mem_cons.1 hlines
    rw [List.foldl_cons, addPiece]
    cases hblank : line.isBlank with
    | true =>
      rw [if_pos rfl, pieces_cons_of_isBlank hblank]
      exact ih (n + 1) hrest
    | false =>
      have hfirst : Ends (add {} (piece line).step) (piece line).text 0 := by
        refine ⟨?_, hline hblank⟩
        rw [Piece.add_step, text_addAfter]
        exact (List.append_nil _).symm
      obtain ⟨m, hends⟩ := hfirst.foldl hrest
      rw [if_neg Bool.false_ne_true, pieces_cons hblank, hends.finish_eq]

end Pieces

/-! ## Running text -/

/-- A line as words that go on with the text before. -/
def wordsOf (line : Text) : Piece := ⟨line.trim, false⟩

theorem addLine_eq_addPiece : addLine = addPiece wordsOf := rfl

theorem seeded_eq_addPiece (seed : Text) : seeded seed = addPiece wordsOf {} seed := by
  rw [addPiece]
  split
  case isTrue hblank =>
    rw [seeded, Text.trim_eq_nil_iff.2 hblank]
    rfl
  case isFalse =>
    rw [Piece.add_step]
    exact congrArg Prose.mk (List.append_nil _).symm

theorem reflow_eq_finish (seed : Text) (lines : List Text) :
    reflow seed lines = ((seed :: lines).foldl (addPiece wordsOf) {}).finish := by
  rw [reflow, seeded_eq_addPiece, addLine_eq_addPiece, List.foldl_cons]

theorem layOut_map_wordsOf (lines : List (Nat × Text)) :
    layOut (lines.map (Prod.map id wordsOf)) = lines.flatMap fun x ↦ wordGap x.1 ++ x.2.trim := by
  rw [layOut, List.flatMap_map]
  rfl

/-- Words that go on with a trimmed text leave it trimmed. -/
theorem isTrimmed_append_flatMap {lines : List (Nat × Text)} (ht : t.IsTrimmed) (hne : t ≠ [])
    (hlines : ∀ x ∈ lines, x.2.isBlank = false) :
    Text.IsTrimmed (t ++ lines.flatMap fun x ↦ wordGap x.1 ++ x.2.trim) := by
  induction lines generalizing t with
  | nil =>
    rw [List.flatMap_nil, List.append_nil]
    exact ht
  | cons x rest ih =>
    obtain ⟨hx, hrest⟩ := List.forall_mem_cons.1 hlines
    rw [List.flatMap_cons, ← List.append_assoc]
    exact ih (ht.append (Text.isTrimmed_trim x.2) hne (Text.trim_ne_nil hx) (wordGap x.1))
      (List.append_ne_nil_of_left_ne_nil hne _) hrest

/-- The text that a seed and some lines amount to.  There is none if they are all blank; otherwise
those that are not blank follow one another, trimmed, with a space between neighbours, or a line
feed for each blank line between them. -/
theorem reflow_eq_spaced (seed : Text) (lines : List Text) :
    reflow seed lines =
      match Line.spaced 0 (seed :: lines) with
      | [] => none
      | first :: rest => some (first.2.trim ++ rest.flatMap fun x ↦ wordGap x.1 ++ x.2.trim) := by
  rw [reflow_eq_finish, finish_foldl_addPiece 0 fun line _ hblank ↦ Text.inLine_trim hblank, pieces]
  have hmem : ∀ x ∈ Line.spaced 0 (seed :: lines), x.2.isBlank = false :=
    fun x hx ↦ (Line.mem_of_mem_spaced hx).2
  cases hspaced : Line.spaced 0 (seed :: lines) with
  | nil => rfl
  | cons first rest =>
    rw [hspaced] at hmem
    obtain ⟨hfirst, hrest⟩ := List.forall_mem_cons.1 hmem
    have htrimmed := isTrimmed_append_flatMap (Text.isTrimmed_trim first.2)
      (Text.trim_ne_nil hfirst) hrest
    have hne := List.append_ne_nil_of_left_ne_nil (Text.trim_ne_nil hfirst)
      (rest.flatMap fun x ↦ wordGap x.1 ++ x.2.trim)
    change Text.nonBlank? (first.2.trim ++ layOut (rest.map (Prod.map id wordsOf))) = _
    rw [layOut_map_wordsOf]
    exact htrimmed.nonBlank?_eq hne

/-- Blank lines at the beginning, between the lines and at the end. -/
example : reflow [' '] [[], ['a', ' '], [' ', 'b'], [], ['\t'], ['c'], []] =
    some "a b\n\nc".toList := by
  decide

end Prose

end DocComment
