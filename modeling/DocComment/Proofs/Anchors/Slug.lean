import DocComment.Proofs.Anchors.Collision
import DocComment.Proofs.Text.LowerCase

/-!
# Slugs of slugs

A slug consists of alphanumeric characters, hyphens and underscores in lower case
(`isSlug_ofHeading`), and every text of such characters is its own slug (`ofHeading_eq_self_iff`).
So nothing changes when the slug of a slug is taken.

A heading is put in lower case before anything is left out of it.  What is left out may have been
the reason for one small sigma or the other, as the bracket is in the heading `ΑΣ(Α`: in its slug,
`αςα`, the final sigma does not end a word any more.  It stays there, since it is in lower case by
itself.

Anchors are slugs as well (`isSlug_numbered`): what a number adds is a hyphen and decimal digits.
-/

namespace DocComment

namespace Slug

open Unicode

variable {t : Text} {c : Char}

/-- A character that slugs are made of. -/
structure IsSlugChar (c : Char) : Prop where
  shown : isAlphanumeric c = true ∨ c = '-' ∨ c = '_'
  lowerCase_eq : lowerCase c = [c]

instance : DecidablePred IsSlugChar := fun c ↦
  decidable_of_iff ((isAlphanumeric c = true ∨ c = '-' ∨ c = '_') ∧ lowerCase c = [c])
    ⟨fun h ↦ ⟨h.1, h.2⟩, fun h ↦ ⟨h.shown, h.lowerCase_eq⟩⟩

/-- A text of characters that slugs are made of. -/
def IsSlug (t : Text) : Prop := ∀ c ∈ t, IsSlugChar c

theorem IsSlugChar.ne_space (h : IsSlugChar c) : c ≠ ' ' := by
  rintro rfl
  exact absurd h.shown (by decide +kernel)

theorem isSlugChar_of_isDigit (h : c.isDigit = true) : IsSlugChar c := by
  have hdigits : ∀ n ∈ List.range' 48 10, IsSlugChar (Char.ofNat n) := by decide +kernel
  simp only [Char.isDigit, Bool.and_eq_true, decide_eq_true_eq, ge_iff_le,
    UInt32.le_iff_toNat_le] at h
  rw [← Char.ofNat_toNat c]
  exact hdigits c.toNat (List.mem_range'_1.2 ⟨h.1, Nat.lt_succ_of_le h.2⟩)

theorem isKept_iff : isKept c = true ↔ (isAlphanumeric c = true ∨ c = '-' ∨ c = '_') ∨ c = ' ' := by
  simp only [isKept, Bool.or_eq_true, beq_iff_eq]
  tauto

theorem isSlug_ofHeading (heading : Text) : IsSlug (ofHeading heading) := by
  intro c hc
  obtain ⟨d, hd, rfl⟩ := List.mem_map.1 hc
  obtain ⟨hlower, hkept⟩ := List.mem_filter.1 hd
  split
  case isTrue => decide +kernel
  case isFalse hspace =>
    exact ⟨(isKept_iff.1 hkept).resolve_right hspace, Text.lowerCase_of_mem_toLowerCase hlower⟩

/-- None of the three steps changes a text of characters that slugs are made of. -/
theorem IsSlug.ofHeading_eq (h : IsSlug t) : ofHeading t = t := by
  have hlower : t.toLowerCase = t := Text.toLowerCase_eq_self_iff.2 fun c hc ↦ (h c hc).lowerCase_eq
  have hkept : t.filter isKept = t :=
    List.filter_eq_self.2 fun c hc ↦ isKept_iff.2 (.inl (h c hc).shown)
  have hspaces : t.map (fun c ↦ if c = ' ' then '-' else c) = t.map id :=
    List.map_congr_left fun c hc ↦ if_neg (h c hc).ne_space
  rw [ofHeading, hlower, hkept, hspaces, List.map_id]

/-- Exactly the slugs are their own slugs. -/
theorem ofHeading_eq_self_iff : ofHeading t = t ↔ IsSlug t := by
  constructor
  · intro h
    rw [← h]
    exact isSlug_ofHeading t
  · exact IsSlug.ofHeading_eq

/-- Every character of a slug is alphanumeric, a hyphen or an underscore, and the slug of a slug is
the slug.  Not every text is one: a heading is its own slug when it has only such characters, each
of them in lower case, and else it has another one. -/
theorem ofHeading_spec (heading : Text) :
    (∀ c ∈ ofHeading heading, isAlphanumeric c = true ∨ c = '-' ∨ c = '_') ∧
      ofHeading (ofHeading heading) = ofHeading heading ∧
      (ofHeading heading = heading ↔
        ∀ c ∈ heading, (isAlphanumeric c = true ∨ c = '-' ∨ c = '_') ∧ lowerCase c = [c]) := by
  have hslug := isSlug_ofHeading heading
  refine ⟨fun c hc ↦ (hslug c hc).shown, hslug.ofHeading_eq, ofHeading_eq_self_iff.trans ?_⟩
  refine forall₂_congr fun c _ ↦ ?_
  exact ⟨fun h ↦ ⟨h.shown, h.lowerCase_eq⟩, fun h ↦ ⟨h.1, h.2⟩⟩

/-- The bracket makes a final sigma of the capital one, and the dot of the last letter becomes a
character of its own; the slug has neither the bracket nor the dot. -/
theorem ofHeading_spec_sigma :
    let heading := "ΑΣ(İ".toList
    'ς' ∈ ofHeading heading ∧ isAlphanumeric 'ς' = true ∧
      ofHeading heading = "αςi".toList ∧ ofHeading "αςi".toList = "αςi".toList := by
  intro heading
  have hslug : ofHeading heading = "αςi".toList := by decide +kernel
  have hmem : 'ς' ∈ ofHeading heading := by decide +kernel
  obtain ⟨hshown, hstable, -⟩ := ofHeading_spec heading
  refine ⟨hmem, (hshown 'ς' hmem).resolve_right (by decide), hslug, ?_⟩
  rwa [hslug] at hstable

end Slug

/-! ## Anchors -/

namespace Anchors

open Slug

theorem isSlug_numbered {slug : Text} (h : IsSlug slug) (n : Nat) : IsSlug (numbered slug n) := by
  rcases Nat.eq_zero_or_pos n with rfl | hn
  · exact h
  · rw [numbered_of_pos slug hn]
    intro c hc
    rcases List.mem_append.1 hc with hslug | hnumber
    · exact h c hslug
    · rcases List.mem_cons.1 hnumber with rfl | hdigit
      · decide +kernel
      · exact isSlugChar_of_isDigit (Nat.isDigit_of_mem_toDigits (by decide) (by decide) hdigit)

end Anchors

end DocComment
