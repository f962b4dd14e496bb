import DocComment.Proofs.Prose.Shape
import DocComment.Proofs.Text.Words

/-!
# Words of collected texts

Collecting prose keeps its words (`Prose.words_finish`).  A step looks at no more than the last
character of what is there before it puts its own text behind it.  That is enough: either nothing is
there, or a line feed is, or the step puts a separator in, so that no word goes on in the next one
(`Prose.words_addAfter`).  What is trimmed off at the end are no words.
-/

namespace DocComment

open Unicode

namespace Prose

/-- No word is glued to the text that is added, whatever it begins with. -/
theorem words_addAfter {separator : Char} (h : isWhiteSpace separator = true) (p : Prose)
    (t : Text) : (p.addAfter separator t).text.words = p.text.words ++ t.words := by
  rw [text_addAfter]
  split
  case isTrue hstart =>
    rw [isAtStart_iff] at hstart
    rcases List.eq_nil_or_concat p.text with hnil | ⟨init, last, hlast⟩
    · rw [hnil]
      rfl
    · rw [List.concat_eq_append] at hlast
      obtain rfl : last = '\n' := hstart last (hlast ▸ List.getLast?_concat)
      rw [hlast, List.append_assoc, List.singleton_append, Text.words_append_cons rfl,
        Text.words_append_blanks rfl]
  case isFalse =>
    rw [List.append_assoc, List.singleton_append, Text.words_append_cons h]

theorem words_breakParagraph (p : Prose) : p.breakParagraph.text.words = p.text.words := by
  rw [text_breakParagraph]
  split
  case isTrue hnil => rw [hnil]
  case isFalse => exact Text.words_append_blanks rfl p.text

/-- A step adds the words of its text behind the words that are there. -/
theorem words_add (p : Prose) (step : Step) :
    (p.add step).text.words = p.text.words ++ step.text.words := by
  cases step with
  | line t =>
    rw [add, addLine, Step.text]
    split
    case isTrue hblank => rw [words_breakParagraph, Text.words_of_isBlank hblank, List.append_nil]
    case isFalse => rw [addWords, words_addAfter rfl, Text.words_trim]
  | words t => exact words_addAfter rfl p t
  | item t => exact words_addAfter rfl p t
  | paragraphBreak => exact (words_breakParagraph p).trans (List.append_nil _).symm

theorem words_foldl_add (p : Prose) (steps : List Step) :
    (steps.foldl add p).text.words = p.text.words ++ steps.flatMap (·.text.words) := by
  induction steps generalizing p with
  | nil => exact (List.append_nil _).symm
  | cons step steps ih =>
    rw [List.foldl_cons, ih, words_add, List.flatMap_cons, List.append_assoc]

/-- Whatever is collected, the words of the result are the words of the seed and then of each step
in order; so there is no result exactly when the seed and all steps are blank. -/
theorem words_finish (seed : Text) (steps : List Step) :
    (steps.foldl add (seeded seed)).finish.elim [] Text.words =
        seed.words ++ steps.flatMap (·.text.words) ∧
      ((steps.foldl add (seeded seed)).finish = none ↔
        seed.isBlank = true ∧ ∀ step ∈ steps, step.text.isBlank = true) := by
  have hwords : (steps.foldl add (seeded seed)).text.words =
      seed.words ++ steps.flatMap (·.text.words) := by
    rw [words_foldl_add, text_seeded, Text.words_trim]
  refine ⟨(Text.elim_words_nonBlank? _).trans hwords, ?_⟩
  rw [finish, Text.nonBlank?_eq_none_iff, ← Text.words_eq_nil_iff, hwords, List.append_eq_nil_iff,
    List.flatMap_eq_nil_iff]
  simp only [Text.words_eq_nil_iff]

/-- An item behind a line feed that its own text brought along, and words that have none. -/
example : ([Step.words ['a', '\n'], .item ['b'], .words [' '], .words ['c']].foldl add
    (seeded [' ', 's'])).finish = some "s a\nb   c".toList := by
  decide

end Prose

end DocComment
