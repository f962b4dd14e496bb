import DocComment.Proofs.Document.Complaint
import DocComment.Proofs.Prose.Shape
import DocComment.Proofs.Record.Append
import Mathlib.Algebra.GroupWithZero.Nat

/-!
# Blank lines between sections

Blank lines mean something inside a block of text: each of them breaks a paragraph, and in code it
is a line of its own.  At the boundaries of blocks they mean nothing: put before the first line of a
comment, before tag starts or after the last line, they leave the record as it was and move the
complaint, if there is one (`parse_of_insertBefore`).

All of them but those at the very beginning are found at the end of the preamble or of a body, where
what they add is trimmed away: line feeds from prose (`Prose.reflow_append_blanks`), and from code
whatever white space is left of them behind the column (`CodeBlock.cut_append_blanks`).  The ones at
the beginning come before any text and add nothing.
-/

namespace DocComment

variable {blanks : List Text}

/-! ## Blank lines at the end of a block -/

namespace Prose

theorem finish_breakParagraph (p : Prose) : p.breakParagraph.finish = p.finish := by
  rw [finish, text_breakParagraph, finish]
  split
  case isTrue h => rw [h]
  case isFalse => exact Text.nonBlank?_append_blanks rfl p.text

/-- Paragraph breaks that nothing comes after are trimmed away. -/
theorem finish_foldl_breaks {take : Prose → Text → Prose}
    (h : ∀ line ∈ blanks, ∀ p, take p line = p.breakParagraph) (p : Prose) :
    (blanks.foldl take p).finish = p.finish := by
  induction blanks generalizing p with
  | nil => rfl
  | cons line blanks ih =>
    obtain ⟨hline, hblanks⟩ := List.forall_mem_cons.1 h
    rw [List.foldl_cons, ih hblanks, hline, finish_breakParagraph]

theorem reflow_append_blanks (h : ∀ line ∈ blanks, line.isBlank = true) (seed : Text)
    (lines : List Text) : reflow seed (lines ++ blanks) = reflow seed lines := by
  have hbreaks : ∀ line ∈ blanks, ∀ p : Prose, p.addLine line = p.breakParagraph :=
    fun line hline _ ↦ if_pos (h line hline)
  rw [reflow, List.foldl_append, finish_foldl_breaks hbreaks, reflow]

end Prose

/-- Blank lines around a preamble are not part of the description. -/
theorem Description.ofPreamble_append_blanks {front : List Text}
    (hfront : ∀ line ∈ front, line.isBlank = true) (h : ∀ line ∈ blanks, line.isBlank = true)
    (preamble : List Text) : ofPreamble (front ++ (preamble ++ blanks)) = ofPreamble preamble := by
  have hstart : front.foldl (fun (p : Prose) line ↦ p.add (step line)) {} = {} := by
    induction front with
    | nil => rfl
    | cons line front ih =>
      obtain ⟨hline, hrest⟩ := List.forall_mem_cons.1 hfront
      rw [List.foldl_cons, step_of_isBlank hline]
      exact ih hrest
  rw [ofPreamble, List.foldl_map, List.foldl_append, hstart, List.foldl_append,
    Prose.finish_foldl_breaks, ofPreamble, List.foldl_map]
  intro line hline p
  rw [step_of_isBlank (h line hline)]
  rfl

theorem CodeBlock.cut_append_blanks (h : ∀ line ∈ blanks, line.isBlank = true) (column : Nat)
    (lines : List Text) : cut column (lines ++ blanks) = cut column lines := by
  -- a blank line may reach further than the column; what is left of it is blank again
  have hdrop : ∀ line ∈ blanks, Text.isBlank (line.drop column) = true := by
    intro line hline
    rw [Text.isBlank, List.all_eq_true]
    exact fun c hc ↦ List.all_eq_true.1 (h line hline) c (List.mem_of_mem_drop hc)
  have hblank : Text.isBlank ((blanks.map (·.drop column)).flatMap (· ++ ['\n'])) = true := by
    rw [Text.isBlank_flatMap_feed, List.all_map, List.all_eq_true]
    exact hdrop
  rw [List.flatMap_map] at hblank
  rw [cut, finish, code_foldl, List.flatMap_append, Text.isBlank_append_blanks hblank,
    Text.trimEnd_append_blanks hblank, ← code_foldl, ← finish, cut]

/-- A section with blank lines at its end. -/
theorem Section.SameReading.append_blanks (h : ∀ line ∈ blanks, line.isBlank = true)
    (header : Text) (body : List Text) : SameReading ⟨header, body⟩ ⟨header, body ++ blanks⟩ where
  argument _ := rfl
  body _ _ _ := ⟨fun seed ↦ Prose.reflow_append_blanks h seed body,
    CodeBlock.cut_append_blanks h _ body⟩

/-! ## Blank lines where blocks end -/

namespace Line

/-- Some lines with further ones among them: `more i` stands before the line that had the index `i`,
or behind the last line if there was none. -/
def insertBefore (more : Nat → List Text) : List Text → List Text
  | [] => more 0
  | line :: rest => more 0 ++ line :: insertBefore (fun i ↦ more (i + 1)) rest

/-- How many of the further lines stand before the line that had the index `i`. -/
def insertedBefore (more : Nat → List Text) (i : Nat) : Nat :=
  ((List.range (i + 1)).map fun j ↦ (more j).length).sum

/-- Where a block may end: before a tag start or behind the last line. -/
def IsBoundary (lines : List Text) (i : Nat) : Prop :=
  i = lines.length ∨ ∃ line ∈ lines[i]?, isTagStart line = true

instance (lines : List Text) (i : Nat) : Decidable (IsBoundary lines i) :=
  inferInstanceAs (Decidable (_ ∨ ∃ line ∈ lines[i]?, _))

variable {more : Nat → List Text} {line : Text} {rest : List Text} {i : Nat}

theorem isBoundary_cons_succ : IsBoundary (line :: rest) (i + 1) ↔ IsBoundary rest i := by
  rw [IsBoundary, IsBoundary, List.length_cons, Nat.succ_inj, List.getElem?_cons_succ]

/-- There is no preamble where a block may end before the first line. -/
theorem IsBoundary.preamble_eq_nil {lines : List Text} (h : IsBoundary lines 0) :
    (Document.ofLines lines).preamble = [] := by
  refine Document.preamble_ofLines_eq_nil fun line hline ↦ ?_
  rw [List.head?_eq_getElem?] at hline
  rcases h with hend | ⟨line', hline', hstart⟩
  · rw [List.getElem?_eq_none hend.ge] at hline
    cases hline
  · rwa [Option.mem_unique hline hline']

theorem insertedBefore_succ (more : Nat → List Text) (i : Nat) :
    insertedBefore more (i + 1) =
      (more 0).length + insertedBefore (fun j ↦ more (j + 1)) i := by
  rw [insertedBefore, List.range_succ_eq_map, List.map_cons, List.map_map, List.sum_cons,
    insertedBefore]
  rfl

/-- The first line of a kind that none of the further lines is of. -/
theorem findIdx?_insertBefore {p : Text → Bool} (h : ∀ i, ∀ line ∈ more i, p line = false)
    (lines : List Text) :
    (insertBefore more lines).findIdx? p =
      (lines.findIdx? p).map fun i ↦ i + insertedBefore more i := by
  have hfirst : (more 0).findIdx? p = none := List.findIdx?_eq_none_iff.2 (h 0)
  induction lines generalizing more with
  | nil => exact hfirst
  | cons line rest ih =>
    rw [insertBefore, List.findIdx?_append, hfirst, Option.none_or, List.findIdx?_cons,
      List.findIdx?_cons, ih (fun i ↦ h (i + 1)) (List.findIdx?_eq_none_iff.2 (h 1))]
    split
    case isTrue => simp [insertedBefore]
    case isFalse =>
      rw [Option.map_map, Option.map_map, Option.map_map]
      congr 1
      funext i
      simp only [Function.comp_apply, insertedBefore_succ]
      omega

end Line

namespace Document

variable {more : Nat → List Text} {lines : List Text}

/-- Blank lines before the other tag starts and behind everything end the preamble or a body, and
those before the first line come before the preamble. -/
theorem exists_ofLines_insertBefore (hblank : ∀ i, ∀ line ∈ more i, line.isBlank = true)
    (hplace : ∀ i, i ≠ 0 → more i ≠ [] → Line.IsBoundary lines i) :
    ∃ back, (∀ line ∈ back, line.isBlank = true) ∧
      (ofLines (Line.insertBefore more lines)).preamble =
        more 0 ++ ((ofLines lines).preamble ++ back) ∧
      Section.SameReadings (ofLines lines).sections
        (ofLines (Line.insertBefore more lines)).sections := by
  have hfirst : ∀ line ∈ more 0, Line.isTagStart line = false := fun line hline ↦
    Line.isTagStart_of_isBlank (hblank 0 line hline)
  induction lines generalizing more with
  | nil =>
    rw [Line.insertBefore, ← List.append_nil (more 0), ofLines_append_of_notTagStart [] hfirst]
    exact ⟨[], nofun, by simp [ofLines], .nil⟩
  | cons line rest ih =>
    obtain ⟨behind, hbehind, hpreamble, hsections⟩ := @ih (fun i ↦ more (i + 1))
      (fun i ↦ hblank (i + 1))
      (fun i _ hmore ↦ Line.isBoundary_cons_succ.1 (hplace (i + 1) i.succ_ne_zero hmore))
      (fun line hline ↦ Line.isTagStart_of_isBlank (hblank 1 line hline))
    -- what stands before the rest ends this block, as it stands there only if the block is over
    obtain ⟨back, hback, hpreamble⟩ : ∃ back : List Text, (∀ line ∈ back, line.isBlank = true) ∧
        (ofLines (Line.insertBefore (fun i ↦ more (i + 1)) rest)).preamble =
          (ofLines rest).preamble ++ back := by
      rw [hpreamble]
      by_cases hmore : more 1 = []
      · exact ⟨behind, hbehind, by rw [hmore, List.nil_append]⟩
      · have hnil : (ofLines rest).preamble = [] :=
          (Line.isBoundary_cons_succ.1 (hplace 1 Nat.one_ne_zero hmore)).preamble_eq_nil
        exact ⟨more 1 ++ behind, List.forall_mem_append.2 ⟨hblank 1, hbehind⟩, by rw [hnil]; rfl⟩
    rw [Line.insertBefore, ofLines_append_of_notTagStart _ hfirst, ofLines, ofLines]
    by_cases hstart : Line.isTagStart line = true
    · rw [if_pos hstart, if_pos hstart, hpreamble]
      exact ⟨[], nofun, rfl, .cons (.append_blanks hback _ _) hsections⟩
    · rw [if_neg hstart, if_neg hstart, hpreamble]
      exact ⟨back, hback, rfl, hsections⟩

end Document

/-- Blank lines at the beginning, before tag starts or at the end do not change what a comment says,
nor which line makes it impossible to read. -/
theorem parse_of_insertBefore {a b : Text} {blanks : Nat → List Text}
    (hblank : ∀ i, ∀ line ∈ blanks i, line.isBlank = true)
    (hplace : ∀ i, blanks i ≠ [] → i = 0 ∨ Line.IsBoundary (Line.split a) i)
    (hb : Line.split b = Line.insertBefore blanks (Line.split a)) :
    parse b = (parse a).mapError fun e ↦ e.below (Line.insertedBefore blanks e.line) := by
  rw [parse, parse, parseLines, parseLines, hb]
  generalize Line.split a = lines at hplace ⊢
  have hmalformed : (Document.ofLines (Line.insertBefore blanks lines)).malformed? =
      (Document.ofLines lines).malformed?.map
        fun e ↦ e.below (Line.insertedBefore blanks e.line) := by
    rw [Document.malformed?_ofLines, Document.malformed?_ofLines,
      Line.findIdx?_insertBefore, Option.map_map, Option.map_map]
    · rfl
    · exact fun i line hline ↦
        Line.isMalformed_eq_false (Line.isTagStart_of_isBlank (hblank i line hline))
  have hrecord : (Document.ofLines (Line.insertBefore blanks lines)).record =
      (Document.ofLines lines).record := by
    obtain ⟨back, hback, hpreamble, hsections⟩ := Document.exists_ofLines_insertBefore hblank
      fun i hi hmore ↦ (hplace i hmore).resolve_left hi
    refine Document.record_of_sameReadings hsections ?_
    rw [hpreamble, Description.ofPreamble_append_blanks (hblank 0) hback]
  rw [Document.parse, Document.parse, hmalformed, hrecord]
  cases (Document.ofLines lines).malformed? with
  | none => rfl
  | some e => rfl

/-- Blanks at the beginning, behind code and at the end, below a header that cannot be read. -/
theorem parse_of_insertBefore_unclosed :
    let a := "Sum.\n@example Two\n  x\n@throws [E".toList
    let b := "\u2003\nSum.\n@example Two\n  x\n             \n\n@throws [E\n\t".toList
    let blanks : Nat → List Text := fun
      | 0 => ["\u2003".toList]
      | 3 => ["             ".toList, []]
      | 4 => ["\t".toList]
      | _ => []
    (∀ i, ∀ line ∈ blanks i, line.isBlank = true) ∧
      (∀ i, blanks i ≠ [] → i = 0 ∨ Line.IsBoundary (Line.split a) i) ∧
      Line.split b = Line.insertBefore blanks (Line.split a) ∧
      parse a = .error ⟨.throws, 3, .unclosedType⟩ ∧
      parse b = .error ⟨.throws, 6, .unclosedType⟩ := by
  intro a b blanks
  have hblank : ∀ i, ∀ line ∈ blanks i, line.isBlank = true := by
    rintro (_ | _ | _ | _ | _ | i)
    case succ.succ.succ.succ.succ => exact nofun
    all_goals decide
  have hplace : ∀ i, blanks i ≠ [] → i = 0 ∨ Line.IsBoundary (Line.split a) i := by
    rintro (_ | _ | _ | _ | _ | i)
    case succ.succ.succ.succ.succ => exact fun h ↦ absurd rfl h
    all_goals decide
  have hb : Line.split b = Line.insertBefore blanks (Line.split a) := by decide
  have ha : parse a = .error ⟨.throws, 3, .unclosedType⟩ := by decide
  refine ⟨hblank, hplace, hb, ha, ?_⟩
  rw [parse_of_insertBefore hblank hplace hb, ha]
  rfl

/-- Blanks that reach further than the column of the code do not get into it. -/
example :
    parse "\t\n@example Two\n  x\n             \n\n@todo z\n ".toList =
      parse "@example Two\n  x\n@todo z".toList := by
  decide

end DocComment
