import DocComment.Proofs.Document.Rearrange

/-!
# Sections that are read alike

Little is read of a section: the argument that a tag finds in the header and, for tags that go on
below it, the prose or the code that the body amounts to.  A section with another body, or one that
stands elsewhere on its lines, has the same reading when it agrees in this (`Section.SameReading`);
and a section that only `public` accepts, or no tag at all, is not read.

Every change of the sections that keeps their readings and adds or takes away unread ones keeps the
record (`Document.record_of_sameReadings`).  The fields are gone through once, in that theorem.
-/

namespace DocComment

open Prose (reflow)

/-- Whether the lines below the tag's own line are read. -/
def Tag.readsBody : Tag → Bool
  | author | globalScope | ignored | memberOf | privateScope | publicScope => false
  | copyright | deprecated | codeExample | license | namespaceName | param | returns | since
  | throws | todo | version => true

theorem Tag.ne_publicScope_of_readsBody {tag : Tag} (h : tag.readsBody = true) :
    tag ≠ .publicScope := by
  rintro rfl
  cases h

/-- An argument can be split or not, whatever comes below it. -/
theorem Throw.isNone_ofArgument? (argument : Text) (body body' : List Text) :
    (ofArgument? argument body).isNone = (ofArgument? argument body').isNone := by
  unfold ofArgument?
  split
  · rw [Option.isNone_map, Option.isNone_map]
  · rfl

namespace Section

variable {s s' : Section} {before after : List Section} {tag : Tag}

/-- The section is nobody's: no field is read off the tags that accept its header. -/
def IsUnread (s : Section) : Prop := ∀ tag, belongsTo tag s = true → tag = .publicScope

/-- The bodies amount to the same prose and the same code. -/
structure SameBody (s s' : Section) : Prop where
  reflow : ∀ seed, reflow seed s'.body = reflow seed s.body
  code : CodeBlock.cut s'.column s'.body = CodeBlock.cut s.column s.body

/-- Every tag finds the same in the headers, and the bodies amount to the same if they are read. -/
structure SameReading (s s' : Section) : Prop where
  argument : ∀ tag, s'.argument? tag = s.argument? tag
  body : ∀ tag, tag.readsBody = true → belongsTo tag s = true → SameBody s s'

/-- The same sections for every reader: each has the same reading, and unread ones are left out. -/
inductive SameReadings : List Section → List Section → Prop
  | nil : SameReadings [] []
  | cons {s s' : Section} {before after : List Section} :
      SameReading s s' → SameReadings before after → SameReadings (s :: before) (s' :: after)
  | unread {s : Section} {before after : List Section} :
      s.IsUnread → SameReadings before after → SameReadings (s :: before) after

theorem SameReading.refl (s : Section) : SameReading s s :=
  ⟨fun _ ↦ rfl, fun _ _ _ ↦ ⟨fun _ ↦ rfl, rfl⟩⟩

/-- Sections that are each replaced by one with the same reading. -/
theorem SameReadings.map {f : Section → Section} (h : ∀ s, SameReading s (f s)) :
    ∀ sections, SameReadings sections (sections.map f)
  | [] => .nil
  | s :: rest => .cons (h s) (.map h rest)

theorem IsUnread.argument?_eq_none (h : s.IsUnread) (htag : tag ≠ .publicScope) :
    s.argument? tag = none := by
  rw [← Option.not_isSome_iff_eq_none]
  exact fun hsome ↦ htag (h tag hsome)

/-! ## Readers -/

theorem entries_singleton {α : Type} (tag : Tag) (finish : Text → Section → Option α)
    (s : Section) :
    entries tag finish [s] = ((s.argument? tag).bind (finish · s)).toList := by
  rw [entries, List.filterMap_cons]
  split <;> simp_all

namespace SameReadings

/-- A finisher that only looks at what is read of a section makes the same entries. -/
theorem entries_eq {α : Type} {finish : Text → Section → Option α} (h : SameReadings before after)
    (htag : tag ≠ .publicScope)
    (hfinish : ∀ argument s s', (tag.readsBody = true → SameBody s s') →
      finish argument s' = finish argument s) :
    entries tag finish after = entries tag finish before := by
  induction h with
  | nil => rfl
  | @cons s s' before after hs _ ih =>
    have hone : entries tag finish [s'] = entries tag finish [s] := by
      rw [entries_singleton, entries_singleton, hs.argument tag]
      congr 1
      refine Option.bind_congr fun argument hargument ↦ hfinish argument s s' fun hreads ↦ ?_
      exact hs.body tag hreads (Option.isSome_iff_exists.2 ⟨argument, hargument⟩)
    rw [← List.singleton_append, entries_append, hone, ih, ← entries_append, List.singleton_append]
  | @unread s before after hs _ ih =>
    rw [ih, ← List.singleton_append, entries_append, entries_singleton,
      hs.argument?_eq_none htag]
    rfl

theorem occurs_eq (h : SameReadings before after) (htag : tag ≠ .publicScope) :
    occurs tag after = occurs tag before := by
  induction h with
  | nil => rfl
  | cons hs _ ih =>
    rw [occurs, occurs, List.any_cons, List.any_cons, ← occurs, ← occurs, ih, hs.argument tag]
  | unread hs _ ih =>
    rw [occurs.eq_1 tag (_ :: _), List.any_cons, ← occurs, ih, hs.argument?_eq_none htag]
    rfl

theorem texts_eq (h : SameReadings before after) (htag : tag.readsBody = true) :
    texts tag after = texts tag before :=
  h.entries_eq (Tag.ne_publicScope_of_readsBody htag) fun argument _ _ hbody ↦
    (hbody htag).reflow argument

theorem lastText_eq (h : SameReadings before after) (htag : tag.readsBody = true) :
    lastText tag after = lastText tag before := by
  rw [lastText, h.entries_eq (Tag.ne_publicScope_of_readsBody htag), ← lastText]
  exact fun argument _ _ hbody ↦ congrArg some ((hbody htag).reflow argument)

theorem deprecation_eq (h : SameReadings before after) :
    Deprecation.ofSections after = Deprecation.ofSections before := by
  rw [Deprecation.ofSections, h.entries_eq (by decide), ← Deprecation.ofSections]
  exact fun argument _ _ hbody ↦ congrArg some ((hbody rfl).reflow argument)

theorem license_eq (h : SameReadings before after) :
    License.ofSections after = License.ofSections before := by
  rw [License.ofSections, h.entries_eq (by decide), ← License.ofSections]
  intro argument s s' hbody
  rw [(hbody rfl).reflow]

theorem example_eq (h : SameReadings before after) :
    Example.ofSections after = Example.ofSections before := by
  refine h.entries_eq (by decide) fun argument s s' hbody ↦ ?_
  rw [(hbody rfl).code]

theorem namespace_eq (h : SameReadings before after) :
    Namespace.ofSections after = Namespace.ofSections before := by
  refine h.entries_eq (by decide) fun argument s s' hbody ↦ ?_
  rw [(hbody rfl).reflow]

theorem parameter_eq (h : SameReadings before after) :
    Parameter.ofSections after = Parameter.ofSections before := by
  rw [Parameter.ofSections, h.entries_eq (by decide), ← Parameter.ofSections]
  intro argument s s' hbody
  simp only [Parameter.ofArgument, (hbody rfl).reflow]

theorem throw_eq (h : SameReadings before after) :
    Throw.ofSections after = Throw.ofSections before := by
  refine h.entries_eq (by decide) fun argument s s' hbody ↦ ?_
  simp only [Throw.ofArgument?, (hbody rfl).reflow]

theorem members_eq (h : SameReadings before after) :
    Identifier.membersOf after = Identifier.membersOf before := by
  rw [Identifier.membersOf, h.entries_eq (by decide) fun _ _ _ _ ↦ rfl, ← Identifier.membersOf]

theorem author_eq (h : SameReadings before after) :
    Author.ofSections after = Author.ofSections before :=
  h.entries_eq (by decide) fun _ _ _ _ ↦ rfl

end SameReadings

/-! ## Complaints -/

theorem SameReading.isMalformed_eq (h : SameReading s s') : s'.isMalformed = s.isMalformed := by
  rw [isMalformed, isMalformed, h.argument]
  cases s.argument? .throws with
  | none => rfl
  | some argument => exact Throw.isNone_ofArgument? argument s'.body s.body

theorem IsUnread.isMalformed_eq (h : s.IsUnread) : s.isMalformed = false := by
  rw [isMalformed, h.argument?_eq_none (by decide)]

theorem SameReadings.any_isMalformed_eq (h : SameReadings before after) :
    after.any isMalformed = before.any isMalformed := by
  induction h with
  | nil => rfl
  | cons hs _ ih => rw [List.any_cons, List.any_cons, ih, hs.isMalformed_eq]
  | unread hs _ ih => rw [List.any_cons, ih, hs.isMalformed_eq, Bool.false_or]

end Section

/-! ## Records -/

namespace Document

variable {preamble preamble' : List Text} {before after : List Section}

theorem record_of_sameReadings (h : Section.SameReadings before after)
    (hpreamble : Description.ofPreamble preamble' = Description.ofPreamble preamble) :
    (mk preamble' after).record = (mk preamble before).record := by
  simp only [record, hpreamble, h.author_eq, h.deprecation_eq, h.example_eq, h.license_eq,
    h.members_eq, h.namespace_eq, h.parameter_eq, h.throw_eq]
  congr 1
  · exact h.texts_eq rfl
  · exact h.occurs_eq (by decide)
  · exact h.occurs_eq (by decide)
  · exact h.occurs_eq (by decide)
  · exact h.lastText_eq rfl
  · exact h.lastText_eq rfl
  · exact h.texts_eq rfl
  · exact h.lastText_eq rfl

/-- A document has the same record, and has one exactly when the other has. -/
theorem parse_eq_ok_iff_of_sameReadings (h : Section.SameReadings before after)
    (hpreamble : Description.ofPreamble preamble' = Description.ofPreamble preamble) {r : Record} :
    (mk preamble' after).parse = .ok r ↔ (mk preamble before).parse = .ok r := by
  rw [parse_eq_ok_iff, parse_eq_ok_iff, h.any_isMalformed_eq, record_of_sameReadings h hpreamble]

end Document

end DocComment
