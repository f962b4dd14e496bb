import DocComment.Proofs.Document.Complaint
import DocComment.Proofs.Tag.Unknown

/-!
# Text that nobody reads

Sections of unknown tags and of `public` can be taken out of a comment, and the lines below an
author, a member or a flag can be replaced by other ones, without any effect on what the comment
says (`parse_of_inertEdit`).  Sections end at the next tag start, whichever it is, so taking one out
leaves the block before it as it was; and since no line has two meanings, what is below an author
is not read by another tag either (`Section.InertEdit.sameReadings`).

A malformed section is never edited, so a comment that cannot be read still cannot be, for the same
section; its header has the index that the edited lines above give it.
-/

namespace DocComment

namespace Section

instance (s : Section) : Decidable s.IsUnread :=
  inferInstanceAs (Decidable (∀ tag, belongsTo tag s = true → tag = .publicScope))

/-- Changes of the text that nobody reads. -/
inductive InertEdit : List Section → List Section → Prop
  | nil : InertEdit [] []
  | keep (s : Section) {before after : List Section} :
      InertEdit before after → InertEdit (s :: before) (s :: after)
  /-- A section goes whose header no tag accepts, or only `public`. -/
  | delete {s : Section} {before after : List Section} :
      s.IsUnread → InertEdit before after → InertEdit (s :: before) after
  /-- Below a tag that does not read on there may be anything but a tag start. -/
  | replaceBody (tag : Tag) {s : Section} {body : List Text} {before after : List Section} :
      tag.readsBody = false → belongsTo tag s = true →
      (∀ line ∈ body, Line.isTagStart line = false) →
      InertEdit before after → InertEdit (s :: before) (⟨s.header, body⟩ :: after)

variable {s : Section} {before after first rest : List Section} {tag tag' : Tag}

/-- A section belongs to one tag at most. -/
theorem eq_of_belongsTo (h : belongsTo tag s = true) (h' : belongsTo tag' s = true) :
    tag = tag' := by
  obtain ⟨argument, hargument⟩ := Option.isSome_iff_exists.1 h
  obtain ⟨argument', hargument'⟩ := Option.isSome_iff_exists.1 h'
  exact Tag.eq_of_argument? hargument hargument'

/-- A malformed section belongs to the tag for errors. -/
theorem belongsTo_throws_of_isMalformed (h : s.isMalformed = true) :
    belongsTo .throws s = true := by
  rw [isMalformed] at h
  rw [belongsTo]
  split at h
  case h_1 argument hargument => rw [hargument]; rfl
  case h_2 => cases h

namespace InertEdit

/-- What is read of the sections stays. -/
theorem sameReadings (h : InertEdit before after) : SameReadings before after := by
  induction h with
  | nil => exact .nil
  | keep s _ ih => exact .cons (.refl s) ih
  | delete hs _ ih => exact .unread hs ih
  | replaceBody _ hbody htag _ _ ih =>
    refine .cons ⟨fun _ ↦ rfl, fun tag' hreads htag' ↦ ?_⟩ ih
    rw [eq_of_belongsTo htag htag', hreads] at hbody
    cases hbody

/-- What holds of all sections still does, if it allows for other lines below the header. -/
theorem forall_mem {P : Section → Prop} (h : InertEdit before after)
    (hP : ∀ s body, P s → (∀ line ∈ body, Line.isTagStart line = false) → P ⟨s.header, body⟩)
    (hbefore : ∀ s ∈ before, P s) : ∀ s ∈ after, P s := by
  induction h with
  | nil => exact hbefore
  | keep s _ ih =>
    obtain ⟨hs, hrest⟩ := List.forall_mem_cons.1 hbefore
    exact List.forall_mem_cons.2 ⟨hs, ih hrest⟩
  | delete _ _ ih => exact ih (List.forall_mem_cons.1 hbefore).2
  | replaceBody _ _ _ hlines _ ih =>
    obtain ⟨hs, hrest⟩ := List.forall_mem_cons.1 hbefore
    exact List.forall_mem_cons.2 ⟨hP _ _ hs hlines, ih hrest⟩

/-- The tag starts of the edited lines are the headers of the edited sections. -/
theorem isCut {preamble : List Text} (h : InertEdit before after)
    (hcut : (Document.mk preamble before).IsCut) : (Document.mk preamble after).IsCut where
  preamble := hcut.preamble
  header := h.forall_mem (fun _ _ hs _ ↦ hs) hcut.header
  body := h.forall_mem (fun _ _ _ hlines ↦ hlines) hcut.body

/-- A malformed section is kept, between what is made of the sections before and after it. -/
theorem exists_append_cons (h : InertEdit (first ++ s :: rest) after) (hs : s.isMalformed = true) :
    ∃ first' rest', after = first' ++ s :: rest' ∧ InertEdit first first' ∧
      InertEdit rest rest' := by
  have hthrows := belongsTo_throws_of_isMalformed hs
  -- on the sections before it; errors are read on below their header, so no edit is about this one
  induction first generalizing after with
  | nil =>
    cases h with
    | keep _ h => exact ⟨[], _, rfl, .nil, h⟩
    | delete hunread _ => cases hunread .throws hthrows
    | replaceBody _ hbody htag _ _ =>
      rw [eq_of_belongsTo htag hthrows] at hbody
      cases hbody
  | cons t first ih =>
    cases h with
    | keep _ h =>
      obtain ⟨first', rest', rfl, hfirst, hrest⟩ := ih h
      exact ⟨t :: first', rest', rfl, .keep t hfirst, hrest⟩
    | delete hunread h =>
      obtain ⟨first', rest', rfl, hfirst, hrest⟩ := ih h
      exact ⟨first', rest', rfl, .delete hunread hfirst, hrest⟩
    | replaceBody _ hbody htag hlines h =>
      obtain ⟨first', rest', rfl, hfirst, hrest⟩ := ih h
      exact ⟨_ :: first', rest', rfl, .replaceBody _ hbody htag hlines hfirst, hrest⟩

end InertEdit

end Section

/-- A comment says the same when sections that nobody reads are taken out of it and lines that
nobody reads are replaced.  If it cannot be read, then because of a section that is there before and
after the edit: the complaint is about its header, which stands below the preamble and the sections
before it. -/
theorem parse_of_inertEdit {a b : Text} {sections : List Section}
    (h : Section.InertEdit (Document.ofText a).sections sections)
    (hb : Line.split b = (Document.mk (Document.ofText a).preamble sections).lines) :
    (∀ r, parse b = .ok r ↔ parse a = .ok r) ∧
      ∀ e, parse a = .error e → ∃ first s rest first' rest',
        (Document.ofText a).sections = first ++ s :: rest ∧
        sections = first' ++ s :: rest' ∧
        Section.InertEdit first first' ∧ Section.InertEdit rest rest' ∧
        e.line = (Document.ofText a).preamble.length + (first.flatMap Section.lines).length ∧
        parse b = .error { e with
          line := (Document.ofText a).preamble.length +
            (first'.flatMap Section.lines).length } := by
  have hcut : (Document.ofText a).IsCut := Document.isCut_ofLines (Line.split a)
  have hparse : parse a = (Document.ofText a).parse := rfl
  rw [hparse, parse, parseLines, hb]
  generalize Document.ofText a = d at h hcut ⊢
  obtain ⟨preamble, before⟩ := d
  rw [Document.ofLines_lines (h.isCut hcut)]
  refine ⟨fun r ↦ Document.parse_eq_ok_iff_of_sameReadings h.sameReadings rfl, fun e he ↦ ?_⟩
  rw [Document.parse_eq_error_iff_malformed?] at he
  obtain ⟨first, s, rest, rfl, hfirst, hs, rfl⟩ := Document.exists_first_of_malformed? he
  obtain ⟨first', rest', rfl, hedit, hedit'⟩ := h.exists_append_cons hs
  refine ⟨first, s, rest, first', rest', rfl, rfl, hedit, hedit', rfl, ?_⟩
  rw [Document.parse_eq_error_iff_malformed?]
  refine Document.malformed?_append_cons ?_ hs
  rw [hedit.sameReadings.any_isMalformed_eq, hfirst]

/-- An unknown section and a public mark go, and what is below the author changes. -/
theorem parse_of_inertEdit_unclosed :
    let a := "Sum.\n@see x\nskipped\n@author A\nold\n@public\n@throws [E".toList
    let b := "Sum.\n@author A\nnew\n\nlines\n@throws [E".toList
    let sections : List Section :=
      [⟨"@author A".toList, ["new".toList, [], "lines".toList]⟩, ⟨"@throws [E".toList, []⟩]
    let e : Malformed := ⟨.throws, 6, .unclosedType⟩
    Section.InertEdit (Document.ofText a).sections sections ∧
      Line.split b = (Document.mk (Document.ofText a).preamble sections).lines ∧
      parse a = .error e ∧ (∃ line, parse b = .error { e with line := line }) ∧
      parse b = .error { e with line := 5 } := by
  intro a b sections e
  have ha : (Document.ofText a).sections =
      [⟨"@see x".toList, ["skipped".toList]⟩, ⟨"@author A".toList, ["old".toList]⟩,
        ⟨"@public".toList, []⟩, ⟨"@throws [E".toList, []⟩] := by decide
  have hedit : Section.InertEdit (Document.ofText a).sections sections := by
    rw [ha]
    refine .delete ?_ (.replaceBody .author rfl ?_ ?_ (.delete ?_ (.keep _ .nil)))
    · decide
    · decide
    · decide
    · decide
  have hb : Line.split b = (Document.mk (Document.ofText a).preamble sections).lines := by decide
  have he : parse a = .error e := by decide
  obtain ⟨-, herror⟩ := parse_of_inertEdit hedit hb
  obtain ⟨_, _, _, _, _, -, -, -, -, -, hline⟩ := herror e he
  exact ⟨hedit, hb, he, ⟨_, hline⟩, by decide⟩

end DocComment
