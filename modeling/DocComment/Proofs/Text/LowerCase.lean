import DocComment.Text.LowerCase
import Mathlib.Data.List.Chain
import Mathlib.Data.Nat.ModEq

/-!
# Texts in lower case

A text in lower case stays as it is when it is put in lower case again, and so does every part of
it.  For a character this is a property of the table: the forms that a run of code points leads to
are not among the code points of any run (`lowerCase_ofNat_lower`).  The table is not searched code
point by code point for this, but run by run, as its runs are in order: most of them end before the
forms of a given one or begin behind them, and where a run lies among the forms, as in an alphabet
whose capital and small letters alternate, their steps keep them apart (`passes`).

The form of a capital sigma depends on the text around it.  But no form is a capital sigma, so in a
text of characters that are their own forms nothing depends on what comes before or after
(`toLowerCase_eq_self_iff`): characters may be taken away from it, and it is still in lower case.
-/

namespace DocComment

namespace Unicode

namespace CaseRun

variable {r s : CaseRun} {n : Nat}

theorem contains_iff :
    r.contains n = true ↔ r.first ≤ n ∧ n ≤ r.last ∧ r.first ≡ n [MOD r.step] := by
  simp only [contains, Bool.and_eq_true, decide_eq_true_eq, beq_iff_eq, and_assoc]
  refine and_congr_right fun hfirst ↦ and_congr_right fun _ ↦ ?_
  rw [Nat.modEq_iff_dvd' hfirst, Nat.dvd_iff_mod_eq_zero]

theorem image_le_lower (r : CaseRun) (n : Nat) : r.image ≤ r.lower n := Nat.le_add_right _ _

theorem lower_le_lower_last (h : r.contains n = true) : r.lower n ≤ r.lower r.last :=
  Nat.add_le_add_left (Nat.sub_le_sub_right (contains_iff.1 h).2.1 _) _

/-- The forms of a run are code points of characters. -/
def LeadsToCharacters (r : CaseRun) : Prop :=
  r.lower r.last < 0xD800 ∨ 0xDFFF < r.image ∧ r.lower r.last < 0x110000

instance : Decidable r.LeadsToCharacters := inferInstanceAs (Decidable (_ ∨ _ ∧ _))

theorem LeadsToCharacters.toNat_ofNat (h : r.LeadsToCharacters) (hn : r.contains n = true) :
    (Char.ofNat (r.lower n)).toNat = r.lower n := by
  have hmin := r.image_le_lower n
  have hmax := lower_le_lower_last hn
  have hvalid : (r.lower n).isValidChar := by
    rcases h with hlow | ⟨hhigh, hlimit⟩
    · exact .inl (Nat.lt_of_le_of_lt hmax hlow)
    · exact .inr ⟨Nat.lt_of_lt_of_le hhigh hmin, Nat.lt_of_le_of_lt hmax hlimit⟩
  rw [Char.ofNat, dif_pos hvalid]
  rfl

/-! ### Forms among other runs -/

/-- The forms of the first run go in the steps of the second one and do not meet it. -/
def alternates (r s : CaseRun) : Bool :=
  (r.first = r.last || r.step = s.step) && s.first % s.step != r.image % s.step

/-- The forms of the run miss all the runs of a row in increasing order.  A run that ends before the
forms or alternates with them is passed by, and the first one that begins behind them ends the
search. -/
def passes (r : CaseRun) : List CaseRun → Bool
  | [] => true
  | s :: rest =>
    if s.last < r.image then r.passes rest
    else r.lower r.last < s.first || r.alternates s && r.passes rest

/-- The forms go in the steps of their run, and the form of a single code point in any. -/
theorem image_modEq_lower (h : r.contains n = true) {step : Nat}
    (hstep : r.first = r.last ∨ r.step = step) : r.image ≡ r.lower n [MOD step] := by
  obtain ⟨hfirst, hlast, hmod⟩ := contains_iff.1 h
  rw [Nat.modEq_iff_dvd' (r.image_le_lower n), lower, Nat.add_sub_cancel_left]
  rcases hstep with hsingle | rfl
  · rw [Nat.sub_eq_zero_of_le (hsingle ▸ hlast)]
    exact Nat.dvd_zero step
  · exact (Nat.modEq_iff_dvd' hfirst).1 hmod

theorem contains_lower_of_last_lt (h : s.last < r.image) : s.contains (r.lower n) = false := by
  rw [← Bool.not_eq_true]
  intro hs
  exact Nat.not_le_of_lt h ((r.image_le_lower n).trans (contains_iff.1 hs).2.1)

theorem contains_lower_of_lt_first (h : r.lower r.last < s.first) (hn : r.contains n = true) :
    s.contains (r.lower n) = false := by
  rw [← Bool.not_eq_true]
  intro hs
  exact Nat.not_le_of_lt h ((contains_iff.1 hs).1.trans (lower_le_lower_last hn))

theorem contains_lower_of_alternates (h : r.alternates s = true) (hn : r.contains n = true) :
    s.contains (r.lower n) = false := by
  rw [alternates, Bool.and_eq_true, Bool.or_eq_true, decide_eq_true_eq, decide_eq_true_eq,
    bne_iff_ne] at h
  rw [← Bool.not_eq_true]
  intro hs
  exact h.2 ((contains_iff.1 hs).2.2.trans (image_modEq_lower hn h.1).symm)

theorem contains_lower_of_passes {runs : List CaseRun} (hpasses : r.passes runs = true)
    (hsorted : runs.Pairwise (·.first < ·.first)) (hn : r.contains n = true) (hs : s ∈ runs) :
    s.contains (r.lower n) = false := by
  fun_induction passes r runs with
  | case1 => cases hs
  | case2 t rest hbefore ih =>
    rcases List.mem_cons.1 hs with rfl | hmem
    · exact contains_lower_of_last_lt hbefore
    · exact ih hpasses hsorted.of_cons hmem
  | case3 t rest _ ih =>
    rw [Bool.or_eq_true, decide_eq_true_eq, Bool.and_eq_true] at hpasses
    rcases hpasses with hbehind | ⟨halternates, hrest⟩
    · -- The row goes on, but all that is left of it begins behind the forms, too.
      have hle : t.first ≤ s.first := by
        rcases List.mem_cons.1 hs with rfl | hmem
        · exact Nat.le_refl _
        · exact Nat.le_of_lt (List.rel_of_pairwise_cons hsorted hmem)
      exact contains_lower_of_lt_first (Nat.lt_of_lt_of_le hbehind hle) hn
    · rcases List.mem_cons.1 hs with rfl | hmem
      · exact contains_lower_of_alternates halternates hn
      · exact ih hrest hsorted.of_cons hmem

end CaseRun

/-! ## Characters -/

/-- The capital I with a dot, as a run beside those of the table. -/
def dottedRun : CaseRun := ⟨0x0130, 0x0130, 1, 0x0069⟩

theorem leadsToCharacters_of_mem : ∀ r ∈ lowerCaseRuns, r.LeadsToCharacters := by decide +kernel

theorem passes_of_mem :
    ∀ r ∈ lowerCaseRuns, r.passes [dottedRun] = true ∧ r.passes lowerCaseRuns = true := by
  decide +kernel

theorem pairwise_first_lowerCaseRuns : lowerCaseRuns.Pairwise (·.first < ·.first) := by
  have hchain : (lowerCaseRuns.map CaseRun.first).IsChain (· < ·) := by decide +kernel
  exact List.pairwise_map.1 (List.isChain_iff_pairwise.1 hchain)

variable {c d : Char}

/-- A character that is in no run is its own form. -/
theorem lowerCase_eq_self (hdotted : dottedRun.contains c.toNat = false)
    (hruns : ∀ s ∈ lowerCaseRuns, s.contains c.toNat = false) : lowerCase c = [c] := by
  have hne : c ≠ '\u0130' := by
    rintro rfl
    exact absurd hdotted (by decide)
  have hnone : lowerCaseRuns.find? (·.contains c.toNat) = none :=
    List.find?_eq_none.2 fun s hs ↦ by simp [hruns s hs]
  rw [lowerCase, if_neg hne, hnone]

/-- The form that a run of the table gives a character is its own form. -/
theorem lowerCase_ofNat_lower {r : CaseRun} {n : Nat} (hr : r ∈ lowerCaseRuns)
    (hn : r.contains n = true) :
    lowerCase (Char.ofNat (r.lower n)) = [Char.ofNat (r.lower n)] := by
  have htoNat := (leadsToCharacters_of_mem r hr).toNat_ofNat hn
  obtain ⟨hdotted, hruns⟩ := passes_of_mem r hr
  refine lowerCase_eq_self ?_ fun s hs ↦ ?_
  · rw [htoNat]
    exact CaseRun.contains_lower_of_passes hdotted (List.pairwise_singleton _ _) hn
      List.mem_cons_self
  · rw [htoNat]
    exact CaseRun.contains_lower_of_passes hruns pairwise_first_lowerCaseRuns hn hs

/-- What the form of a character consists of are its own forms. -/
theorem lowerCase_of_mem_lowerCase (h : d ∈ lowerCase c) : lowerCase d = [d] := by
  rw [lowerCase] at h
  split at h
  case isTrue =>
    simp only [List.mem_cons, List.not_mem_nil, or_false] at h
    rcases h with rfl | rfl
    · decide +kernel
    · decide +kernel
  case isFalse hdotted =>
    split at h
    case h_1 r hr =>
      have hcontains := List.find?_some hr
      rw [List.mem_singleton.1 h]
      exact lowerCase_ofNat_lower (List.mem_of_find?_eq_some hr) hcontains
    case h_2 hnone =>
      rw [List.mem_singleton.1 h, lowerCase, if_neg hdotted, hnone]

end Unicode

/-! ## Texts -/

namespace Text

open Unicode

variable {t before after : Text} {c d : Char}

theorem lowerCase_of_mem_lowerCaseBetween (h : d ∈ lowerCaseBetween before c after) :
    lowerCase d = [d] := by
  rw [lowerCaseBetween] at h
  split at h
  case isTrue =>
    rw [List.mem_singleton.1 h]
    split
    · decide +kernel
    · decide +kernel
  case isFalse => exact lowerCase_of_mem_lowerCase h

theorem lowerCase_of_mem_lowerCaseFrom (h : d ∈ lowerCaseFrom before t) : lowerCase d = [d] := by
  induction t generalizing before with
  | nil => cases h
  | cons c after ih =>
    rcases List.mem_append.1 h with hc | hafter
    · exact lowerCase_of_mem_lowerCaseBetween hc
    · exact ih hafter

/-- The capital sigma is not its own form, so its surroundings do not matter here. -/
theorem lowerCaseBetween_eq_self (h : lowerCase c = [c]) :
    lowerCaseBetween before c after = [c] := by
  have hsigma : c ≠ 'Σ' := by
    rintro rfl
    exact absurd h (by decide +kernel)
  rw [lowerCaseBetween, if_neg hsigma, h]

theorem lowerCaseFrom_eq_self (h : ∀ c ∈ t, lowerCase c = [c]) : lowerCaseFrom before t = t := by
  induction t generalizing before with
  | nil => rfl
  | cons c after ih =>
    rw [lowerCaseFrom, lowerCaseBetween_eq_self (h c List.mem_cons_self),
      ih fun d hd ↦ h d (List.mem_cons_of_mem c hd)]
    rfl

theorem lowerCase_of_mem_toLowerCase (h : d ∈ toLowerCase t) : lowerCase d = [d] :=
  lowerCase_of_mem_lowerCaseFrom h

/-- A text is in lower case when its characters are their own forms. -/
theorem toLowerCase_eq_self_iff : toLowerCase t = t ↔ ∀ c ∈ t, lowerCase c = [c] := by
  constructor
  · intro h c hc
    rw [← h] at hc
    exact lowerCase_of_mem_toLowerCase hc
  · exact lowerCaseFrom_eq_self

end Text

end DocComment
