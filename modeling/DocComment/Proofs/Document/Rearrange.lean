import DocComment.Proofs.Document.Append
import Mathlib.Data.List.FinRange
import Mathlib.Data.List.Sort

/-!
# Sections in another order

The order of sections matters within one tag only: a comment whose sections are moved about says the
same as long as those of one tag come one after the other as before (`parse_of_rearranged`).

A rearrangement is given by the places that the sections go to.  What a field sees of it are the
sections of its own tag, and these are the same list before and after (`Rearrangement.filter_eq`):
both list the places of the tag in increasing order.  That the lines of the rearranged sections fall
into these sections again is `Document.ofLines_lines`, which holds of every document that is cut at
its tag starts.
-/

namespace DocComment

/-! ## Documents cut at their tag starts -/

namespace Document

/-- The headers of the sections are the only tag starts of the document. -/
structure IsCut (d : Document) : Prop where
  preamble : ∀ line ∈ d.preamble, Line.isTagStart line = false
  header : ∀ s ∈ d.sections, Line.isTagStart s.header = true
  body : ∀ s ∈ d.sections, ∀ line ∈ s.body, Line.isTagStart line = false

theorem isCut_ofLines (ls : List Text) : (ofLines ls).IsCut := by
  induction ls with
  | nil => exact ⟨List.forall_mem_nil _, List.forall_mem_nil _, List.forall_mem_nil _⟩
  | cons line rest ih =>
    rw [ofLines]
    split
    case isTrue h =>
      constructor
      · exact List.forall_mem_nil _
      · rintro s (_ | ⟨_, hs⟩)
        · exact h
        · exact ih.header s hs
      · rintro s (_ | ⟨_, hs⟩)
        · exact ih.preamble
        · exact ih.body s hs
    case isFalse h =>
      refine ⟨?_, ih.header, ih.body⟩
      rintro l (_ | ⟨_, hl⟩)
      · exact Bool.eq_false_iff.2 h
      · exact ih.preamble l hl

/-- Lines without a tag start go to the preamble. -/
theorem ofLines_append_of_notTagStart {before : List Text} (after : List Text)
    (h : ∀ line ∈ before, Line.isTagStart line = false) :
    ofLines (before ++ after) =
      ⟨before ++ (ofLines after).preamble, (ofLines after).sections⟩ := by
  induction before with
  | nil => rfl
  | cons line rest ih =>
    obtain ⟨hline, hrest⟩ := List.forall_mem_cons.1 h
    rw [List.cons_append, ofLines, ih hrest, if_neg (Bool.eq_false_iff.1 hline)]
    rfl

/-- A document that is cut at its tag starts is what its lines fall into. -/
theorem ofLines_lines {d : Document} (h : d.IsCut) : ofLines d.lines = d := by
  obtain ⟨preamble, sections⟩ := d
  have hsections : ofLines (sections.flatMap Section.lines) = ⟨[], sections⟩ := by
    obtain ⟨-, hheader, hbody⟩ := h
    induction sections with
    | nil => rfl
    | cons s rest ih =>
      obtain ⟨hs, hrest⟩ := List.forall_mem_cons.1 hheader
      obtain ⟨hsbody, hrestbody⟩ := List.forall_mem_cons.1 hbody
      rw [List.flatMap_cons, Section.lines, List.cons_append, ofLines,
        ofLines_append_of_notTagStart _ hsbody, ih hrest hrestbody, if_pos hs, List.append_nil]
  rw [lines, ofLines_append_of_notTagStart _ h.preamble, hsections, List.append_nil]

end Document

/-! ## Rearrangements -/

namespace Section

/-- Whether a tag's marker accepts the header of the section. -/
def belongsTo (tag : Tag) (s : Section) : Bool := (s.argument? tag).isSome

/-- A finisher makes its entries of the sections of its tag. -/
theorem entries_filter {α : Type} (tag : Tag) (finish : Text → Section → Option α)
    (sections : List Section) :
    entries tag finish (sections.filter (belongsTo tag)) = entries tag finish sections := by
  rw [entries, entries, List.filterMap_filter]
  refine List.filterMap_congr fun s _ ↦ ?_
  cases h : s.argument? tag with
  | none => simp [belongsTo, h]
  | some argument => simp [belongsTo, h]

theorem map_snd_number (start : Nat) (sections : List Section) :
    (number start sections).map Prod.snd = sections := by
  induction sections generalizing start with
  | nil => rfl
  | cons s rest ih => rw [number, List.map_cons, ih]

/-- The same sections in another order, in which those of one tag come one after the other as
before.  A section of no tag may go anywhere. -/
structure Rearrangement (before after : List Section) where
  /-- Where each section goes. -/
  place : Fin before.length ≃ Fin after.length
  get_place : ∀ i, after.get (place i) = before.get i
  place_lt : ∀ tag i j, belongsTo tag (before.get i) = true → belongsTo tag (before.get j) = true →
    i < j → place i < place j

namespace Rearrangement

variable {before after : List Section}

theorem mem_iff (π : Rearrangement before after) {s : Section} : s ∈ after ↔ s ∈ before := by
  constructor
  · intro h
    obtain ⟨i, rfl⟩ := List.mem_iff_get.1 h
    rw [← π.place.apply_symm_apply i, π.get_place]
    exact List.get_mem before _
  · intro h
    obtain ⟨i, rfl⟩ := List.mem_iff_get.1 h
    rw [← π.get_place]
    exact List.get_mem after _

/-- The places of a tag's sections are the places that the sections went to, in the same order. -/
theorem map_place_filter (π : Rearrangement before after) (tag : Tag) :
    ((List.finRange before.length).filter (belongsTo tag ∘ before.get)).map π.place =
      (List.finRange after.length).filter (belongsTo tag ∘ after.get) := by
  -- Both lists are increasing, so their members tell them apart.
  apply List.Pairwise.eq_of_mem_iff (r := (· < ·))
  · rw [List.pairwise_map, List.pairwise_filter]
    refine (List.pairwise_lt_finRange before.length).imp ?_
    intro i j hij hi hj
    exact π.place_lt tag i j hi hj hij
  · exact (List.pairwise_lt_finRange after.length).filter _
  · intro k
    simp only [List.mem_map, List.mem_filter, List.mem_finRange, true_and, Function.comp_apply]
    constructor
    · rintro ⟨i, hi, rfl⟩
      rwa [π.get_place]
    · intro hk
      refine ⟨π.place.symm k, ?_, π.place.apply_symm_apply k⟩
      rwa [← π.get_place, π.place.apply_symm_apply]

/-- The sections of a tag are the same before and after. -/
theorem filter_eq (π : Rearrangement before after) (tag : Tag) :
    after.filter (belongsTo tag) = before.filter (belongsTo tag) := by
  have hget : after.get ∘ π.place = before.get := funext π.get_place
  calc after.filter (belongsTo tag)
      = ((List.finRange after.length).map after.get).filter (belongsTo tag) := by
        rw [List.map_get_finRange]
    _ = ((List.finRange before.length).filter (belongsTo tag ∘ before.get)).map
          (after.get ∘ π.place) := by
        rw [List.filter_map, ← π.map_place_filter tag, List.map_map]
    _ = ((List.finRange before.length).map before.get).filter (belongsTo tag) := by
        rw [hget, List.filter_map]
    _ = before.filter (belongsTo tag) := by
        rw [List.map_get_finRange]

/-! ## What fields see of the sections -/

theorem entries_eq (π : Rearrangement before after) {α : Type} (tag : Tag)
    (finish : Text → Section → Option α) :
    entries tag finish after = entries tag finish before := by
  rw [← entries_filter, π.filter_eq, entries_filter]

theorem occurs_eq (π : Rearrangement before after) (tag : Tag) :
    occurs tag after = occurs tag before := by
  rw [occurs, occurs, Bool.eq_iff_iff, List.any_eq_true, List.any_eq_true]
  simp only [π.mem_iff]

theorem any_isMalformed_eq (π : Rearrangement before after) :
    after.any isMalformed = before.any isMalformed := by
  rw [Bool.eq_iff_iff, List.any_eq_true, List.any_eq_true]
  simp only [π.mem_iff]

end Rearrangement

end Section

/-! ## Readings -/

namespace Document

/-- A document cannot be read when one of its sections cannot. -/
theorem isSome_malformed? (d : Document) :
    d.malformed?.isSome = d.sections.any Section.isMalformed := by
  rw [malformed?, Option.isSome_map, Bool.eq_iff_iff, List.find?_isSome]
  conv_rhs => rw [← Section.map_snd_number d.preamble.length d.sections, List.any_map]
  exact List.any_eq_true.symm

variable {preamble : List Text} {before after : List Section}

theorem record_rearranged (π : Section.Rearrangement before after) :
    (mk preamble after).record = (mk preamble before).record := by
  simp only [record, Author.ofSections, Section.texts, Deprecation.ofSections, Example.ofSections,
    License.ofSections, Identifier.membersOf, Namespace.ofSections, Parameter.ofSections,
    Section.lastText, Throw.ofSections, π.entries_eq, π.occurs_eq]

theorem parse_eq_ok_iff {d : Document} {r : Record} :
    d.parse = .ok r ↔ d.sections.any Section.isMalformed = false ∧ d.record = r := by
  rw [← isSome_malformed?, parse]
  cases d.malformed? with
  | some e => simp
  | none => simp

theorem parse_eq_error_iff {d : Document} :
    (∃ e, d.parse = .error e) ↔ d.sections.any Section.isMalformed = true := by
  rw [← isSome_malformed?, parse]
  cases d.malformed? with
  | some e => simp
  | none => simp

end Document

/-- A comment with its sections in another order has the record of the comment, and has none exactly
when the comment has none, as long as the sections of one tag come one after the other as before. -/
theorem parse_of_rearranged {a b : Text} {sections : List Section}
    (π : Section.Rearrangement (Document.ofText a).sections sections)
    (hb : Line.split b = (Document.mk (Document.ofText a).preamble sections).lines) :
    (∀ r, parse b = .ok r ↔ parse a = .ok r) ∧
      ((∃ e, parse b = .error e) ↔ ∃ e, parse a = .error e) := by
  have ha : (Document.ofText a).IsCut := Document.isCut_ofLines (Line.split a)
  have hcut : (Document.mk (Document.ofText a).preamble sections).IsCut := by
    constructor
    · exact ha.preamble
    · intro s hs
      exact ha.header s (π.mem_iff.1 hs)
    · intro s hs
      exact ha.body s (π.mem_iff.1 hs)
  have hparse : parse b = (Document.mk (Document.ofText a).preamble sections).parse := by
    rw [parse, parseLines, hb, Document.ofLines_lines hcut]
  have hparse' : parse a = (Document.ofText a).parse := rfl
  constructor
  · intro r
    rw [hparse, hparse', Document.parse_eq_ok_iff, Document.parse_eq_ok_iff, π.any_isMalformed_eq,
      Document.record_rearranged π]
  · rw [hparse, hparse', Document.parse_eq_error_iff, Document.parse_eq_error_iff,
      π.any_isMalformed_eq]

/-- An unknown tag goes to the top, and each `since` changes places with the parameter after it. -/
theorem parse_of_rearranged_since :
    let a := "Sum.\n@since 1\n@param x old\n@see y\n@since 2\n@param x\nnew".toList
    let b := "Sum.\n@see y\n@param x old\n@since 1\n@param x\nnew\n@since 2".toList
    let r : Record :=
      { description := some "Sum.".toList, since := some "2".toList,
        parameters := [⟨"x".toList, "new".toList⟩] }
    Nonempty (Section.Rearrangement (Document.ofText a).sections (Document.ofText b).sections) ∧
      parse a = .ok r ∧ parse b = .ok r ∧ ¬∃ e, parse b = .error e := by
  intro a b r
  have ha : parse a = .ok r := by decide
  let before : List Section :=
    [⟨"@since 1".toList, []⟩, ⟨"@param x old".toList, []⟩, ⟨"@see y".toList, []⟩,
      ⟨"@since 2".toList, []⟩, ⟨"@param x".toList, ["new".toList]⟩]
  let after : List Section :=
    [⟨"@see y".toList, []⟩, ⟨"@param x old".toList, []⟩, ⟨"@since 1".toList, []⟩,
      ⟨"@param x".toList, ["new".toList]⟩, ⟨"@since 2".toList, []⟩]
  have hbefore : (Document.ofText a).sections = before := by decide
  have hafter : (Document.ofText b).sections = after := by decide
  let place : Equiv.Perm (Fin 5) := (Equiv.swap 0 2).trans (Equiv.swap 3 4)
  have π : Section.Rearrangement before after :=
    { place := place
      get_place := by decide
      place_lt := fun tag ↦ by cases tag <;> decide }
  rw [hbefore, hafter]
  obtain ⟨hok, herror⟩ := parse_of_rearranged (hbefore ▸ π) (b := b) (by decide)
  refine ⟨⟨π⟩, ha, (hok r).2 ha, ?_⟩
  rw [herror, ha]
  exact nofun

end DocComment
