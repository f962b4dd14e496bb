import DocComment.Proofs.Document.Append
import Mathlib.Data.List.Basic
import Mathlib.Data.List.TakeWhile

/-!
# Blocks of lines

Every tag start has a block: itself and the lines that continue it.  The block ends where the next
one begins (`blockEnd_eq`), so that the lines before the first tag start and the blocks cover the
lines of a comment and have none in common.  This is said with indices, line by line
(`range_blocks`): the indices of the lines before the first tag start, then those of each block, are
the indices of all lines, each once and in order.

The sections of a document are these blocks (`Document.numbered_ofLines`), so whichever tags are
read off a comment, no line is read in two blocks.  In particular, a line that a marker accepts is a
tag start and continues no other (`tagStarts_spec`).
-/

namespace DocComment

namespace Line

variable {lines : List Text} {k s : Nat}

/-- The indices of the lines that start a tag, in order. -/
def tagStarts (lines : List Text) : List Nat :=
  (List.range lines.length).filter fun i ↦ lines[i]?.any isTagStart

/-- The indices of the lines of a block. -/
def blockIndices (lines : List Text) (s : Nat) : List Nat := List.range' s (blockEnd lines s - s)

/-! ## A line in front -/

theorem tagStarts_cons (line : Text) (rest : List Text) :
    tagStarts (line :: rest) =
      (if isTagStart line then [0] else []) ++ (tagStarts rest).map (· + 1) := by
  have hzero : (line :: rest)[0]?.any isTagStart = isTagStart line := rfl
  rw [tagStarts, List.length_cons, List.range_succ_eq_map, List.filter_cons, List.filter_map, hzero]
  split <;> rfl

theorem takeWhile_notTagStart (lines : List Text) :
    lines.takeWhile (!isTagStart ·) = lines.take (firstTagStart lines) := by
  rw [List.takeWhile_eq_take_findIdx_not, firstTagStart]
  simp only [Bool.not_not]

theorem length_takeWhile_notTagStart (lines : List Text) :
    (lines.takeWhile (!isTagStart ·)).length = firstTagStart lines := by
  rw [takeWhile_notTagStart, List.length_take, Nat.min_eq_left]
  exact List.findIdx_le_length

theorem firstTagStart_cons (line : Text) (rest : List Text) :
    firstTagStart (line :: rest) = if isTagStart line then 0 else firstTagStart rest + 1 := by
  rw [firstTagStart, List.findIdx_cons, Bool.cond_eq_ite]
  rfl

theorem blockEnd_cons_zero (line : Text) (rest : List Text) :
    blockEnd (line :: rest) 0 = firstTagStart rest + 1 := by
  rw [blockEnd, continuation_cons_zero, length_takeWhile_notTagStart, Nat.zero_add, Nat.add_comm]

theorem blockEnd_cons_succ (line : Text) (rest : List Text) (s : Nat) :
    blockEnd (line :: rest) (s + 1) = blockEnd rest s + 1 := by
  rw [blockEnd, blockEnd, continuation_cons_succ]
  exact Nat.add_right_comm (s + 1) 1 _

theorem blockIndices_cons_zero (line : Text) (rest : List Text) :
    blockIndices (line :: rest) 0 = 0 :: (List.range (firstTagStart rest)).map (· + 1) := by
  rw [blockIndices, blockEnd_cons_zero, Nat.sub_zero, ← List.range_eq_range',
    List.range_succ_eq_map]

theorem blockIndices_cons_succ (line : Text) (rest : List Text) (s : Nat) :
    blockIndices (line :: rest) (s + 1) = (blockIndices rest s).map (· + 1) := by
  rw [blockIndices, blockIndices, blockEnd_cons_succ, Nat.add_sub_add_right, Nat.add_comm s 1,
    ← List.map_add_range']
  exact List.map_congr_left fun i _ ↦ Nat.add_comm 1 i

/-! ## Where blocks end -/

/-- The lines before the first tag start end there. -/
theorem firstTagStart_eq (lines : List Text) :
    firstTagStart lines = (tagStarts lines)[0]?.getD lines.length := by
  induction lines with
  | nil => rfl
  | cons line rest ih =>
    rw [firstTagStart_cons, tagStarts_cons]
    split
    case isTrue => rfl
    case isFalse =>
      rw [List.nil_append, List.getElem?_map, List.length_cons, Option.getD_map, ← ih]

/-- A block ends where the next one begins, and the last one with the lines. -/
theorem blockEnd_eq (h : (tagStarts lines)[k]? = some s) :
    blockEnd lines s = (tagStarts lines)[k + 1]?.getD lines.length := by
  induction lines generalizing k s with
  | nil => cases h
  | cons line rest ih =>
    have hmoved : ∀ j : Nat, ((tagStarts rest).map (· + 1))[j]?.getD (line :: rest).length =
        (tagStarts rest)[j]?.getD rest.length + 1 := by
      intro j
      rw [List.getElem?_map, List.length_cons, Option.getD_map]
    have hlater : ∀ j : Nat, ((tagStarts rest).map (· + 1))[j]? = some s →
        blockEnd (line :: rest) s =
          ((tagStarts rest).map (· + 1))[j + 1]?.getD (line :: rest).length := by
      intro j hj
      rw [List.getElem?_map, Option.map_eq_some_iff] at hj
      obtain ⟨s', hs', rfl⟩ := hj
      rw [blockEnd_cons_succ, ih hs', hmoved]
    by_cases hstart : isTagStart line = true
    case pos =>
      rw [tagStarts_cons, if_pos hstart] at h ⊢
      cases k with
      | zero =>
        cases h
        rw [blockEnd_cons_zero, firstTagStart_eq, ← hmoved]
        rfl
      | succ k => exact hlater k h
    case neg =>
      rw [tagStarts_cons, if_neg hstart] at h ⊢
      exact hlater k h

/-- The lines before the first tag start and the blocks have all lines, each once and in order. -/
theorem range_blocks (lines : List Text) :
    List.range (firstTagStart lines) ++ (tagStarts lines).flatMap (blockIndices lines) =
      List.range lines.length := by
  induction lines with
  | nil => rfl
  | cons line rest ih =>
    have hmoved : ((tagStarts rest).map (· + 1)).flatMap (blockIndices (line :: rest)) =
        ((tagStarts rest).flatMap (blockIndices rest)).map (· + 1) := by
      rw [List.flatMap_map, List.map_flatMap]
      exact List.flatMap_congr fun s _ ↦ blockIndices_cons_succ line rest s
    rw [List.length_cons, List.range_succ_eq_map, ← ih, List.map_append, firstTagStart_cons,
      tagStarts_cons]
    split
    case isTrue =>
      rw [List.flatMap_append, hmoved, List.flatMap_singleton, blockIndices_cons_zero]
      rfl
    case isFalse =>
      rw [List.nil_append, hmoved, List.range_succ_eq_map]
      rfl

/-- The lines that continue a line are all lines behind it up to the end of its block. -/
theorem continuation_eq (lines : List Text) (s : Nat) :
    continuation lines s = (lines.take (blockEnd lines s)).drop (s + 1) := by
  rw [List.drop_take, blockEnd, Nat.add_sub_cancel_left, continuation,
    length_takeWhile_notTagStart, takeWhile_notTagStart]

end Line

/-! ## Blocks and sections -/

namespace Document

open Line

theorem preamble_eq_take (lines : List Text) :
    (ofLines lines).preamble = lines.take (firstTagStart lines) := by
  rw [preamble_ofLines, takeWhile_notTagStart]

/-- There is a section for each tag start: its header is this line, and its body the lines that
continue it. -/
theorem numbered_ofLines (lines : List Text) :
    (ofLines lines).numbered =
      (tagStarts lines).map fun s ↦ (s, ⟨lines.getD s [], continuation lines s⟩) := by
  induction lines with
  | nil => rfl
  | cons line rest ih =>
    rw [numbered_ofLines_cons, tagStarts_cons, ih, preamble_ofLines, List.map_append, List.map_map,
      List.map_map]
    congr 1
    split <;> rfl

end Document

namespace Line

/-- The blocks of a comment.  The block of a tag start ends at the next one, or with the lines, and
what continues it are exactly the lines in between; these are the sections of the document, and the
lines before the first tag start are its preamble; all of them together have every line once, in
order; and a line that a marker accepts is neither in the preamble nor a continuation of any
line. -/
theorem tagStarts_spec (lines : List Text) :
    (∀ k s, (tagStarts lines)[k]? = some s →
      blockEnd lines s = (tagStarts lines)[k + 1]?.getD lines.length ∧
        continuation lines s = (lines.take (blockEnd lines s)).drop (s + 1)) ∧
    (Document.ofLines lines).preamble = lines.take (firstTagStart lines) ∧
    (Document.ofLines lines).numbered =
      (tagStarts lines).map (fun s ↦ (s, ⟨lines.getD s [], continuation lines s⟩)) ∧
    List.range (firstTagStart lines) ++ (tagStarts lines).flatMap (blockIndices lines) =
      List.range lines.length ∧
    ∀ (tag : Tag) (line : Text), (tag.argument? line).isSome →
      line ∉ (Document.ofLines lines).preamble ∧ ∀ s, line ∉ continuation lines s := by
  refine ⟨fun k s hs ↦ ⟨blockEnd_eq hs, continuation_eq lines s⟩, Document.preamble_eq_take lines,
    Document.numbered_ofLines lines, range_blocks lines, fun tag line haccepted ↦ ?_⟩
  obtain ⟨argument, hargument⟩ := Option.isSome_iff_exists.1 haccepted
  have hstart : isTagStart line = true := Tag.isTagStart_of_argument? hargument
  have hnotMem : ∀ ls : List Text, line ∉ ls.takeWhile (!isTagStart ·) := by
    intro ls hmem
    have hnot := List.mem_takeWhile_imp hmem
    rw [hstart] at hnot
    cases hnot
  rw [Document.preamble_ofLines]
  exact ⟨hnotMem lines, fun s ↦ hnotMem (lines.drop (s + 1))⟩

/-- A tag that nobody knows and a tag that is indented, each with its block. -/
theorem tagStarts_spec_unknown :
    let param := "\t@param p".toList
    let lines : List Text := ["Sum.".toList, " @x".toList, ['b'], [], param, ['c']]
    tagStarts lines = [1, 4] ∧ blockEnd lines 1 = 4 ∧ continuation lines 1 = [['b'], []] ∧
      blockEnd lines 4 = 6 ∧ (Tag.argument? .param param).isSome ∧
      param ∉ (Document.ofLines lines).preamble ∧ ∀ s, param ∉ continuation lines s := by
  intro param lines
  obtain ⟨hblocks, -, -, -, haccepted⟩ := tagStarts_spec lines
  have hfirst : (tagStarts lines)[0]? = some 1 := by decide
  have hlast : (tagStarts lines)[1]? = some 4 := by decide
  have hparam : (Tag.argument? .param param).isSome := by decide
  obtain ⟨hend, hcontinuation⟩ := hblocks 0 1 hfirst
  rw [hend] at hcontinuation
  refine ⟨by decide, hend.trans (by decide), hcontinuation.trans (by decide),
    (hblocks 1 4 hlast).1.trans (by decide), hparam, haccepted .param param hparam⟩

end Line

end DocComment
