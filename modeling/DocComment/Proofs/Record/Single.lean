import DocComment.Proofs.Line.Unbroken
import DocComment.Proofs.Record.Alike
import DocComment.Proofs.Tag.Unknown

/-!
# Comments with one section

A section that one tag accepts says nothing to the others (`Section.argument?_of_ne`), so a comment
that has only this section is read into a record with the field of this tag.
-/

namespace DocComment

variable {s : Section} {tag tag' : Tag} {argument : Text}

theorem Tag.unbroken_token (tag : Tag) : tag.token.Unbroken := by
  cases tag <;> decide

namespace Section

theorem argument?_of_ne (h : s.argument? tag = some argument) (hne : tag' ≠ tag) :
    s.argument? tag' = none := by
  rw [Option.eq_none_iff_forall_ne_some]
  exact fun other hother ↦ hne (Tag.eq_of_argument? hother h)

theorem entries_singleton_of_ne {α : Type} (h : s.argument? tag = some argument) (hne : tag' ≠ tag)
    (finish : Text → Section → Option α) : entries tag' finish [s] = [] := by
  rw [entries_singleton, argument?_of_ne h hne]
  rfl

theorem texts_singleton (tag : Tag) (s : Section) :
    texts tag [s] = ((s.argument? tag).bind (Prose.reflow · s.body)).toList := by
  rw [texts, entries_singleton]

theorem lastText_singleton (tag : Tag) (s : Section) :
    lastText tag [s] = (s.argument? tag).bind (Prose.reflow · s.body) := by
  rw [lastText, entries_singleton]
  cases s.argument? tag with
  | none => rfl
  | some argument => rfl

end Section

namespace Document

open Section

/-- A section of one of four tags is read into no field but theirs. -/
theorem record_singleton (h : s.argument? tag = some argument)
    (htag : tag = .codeExample ∨ tag = .copyright ∨ tag = .returns ∨ tag = .todo) :
    (mk [] [s]).record =
      { copyright := texts .copyright [s]
        examples := Example.ofSections [s]
        returns := lastText .returns [s]
        todo := texts .todo [s] } := by
  have hentries : ∀ {α : Type} (tag' : Tag) (finish : Text → Section → Option α), tag' ≠ tag →
      entries tag' finish [s] = [] :=
    fun _ finish hne ↦ entries_singleton_of_ne h hne finish
  have hnone : ∀ tag', tag' ≠ tag → s.argument? tag' = none := fun _ ↦ argument?_of_ne h
  have hdescription : Description.ofPreamble [] = none := rfl
  rcases htag with rfl | rfl | rfl | rfl <;>
    simp [record, Author.ofSections, Deprecation.ofSections, License.ofSections,
      Identifier.membersOf, Namespace.ofSections, Parameter.ofSections, Throw.ofSections, occurs,
      lastText, hentries, hnone, hdescription]

/-- A comment with one section is readable unless the section is about an error. -/
theorem parse_singleton (h : s.argument? tag = some argument) (htag : tag ≠ .throws) :
    (mk [] [s]).parse = .ok (mk [] [s]).record := by
  refine parse_eq_ok_iff.2 ⟨?_, rfl⟩
  rw [List.any_cons, isMalformed, argument?_of_ne h htag.symm]
  rfl

end Document

end DocComment
