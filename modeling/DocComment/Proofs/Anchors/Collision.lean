import DocComment.Anchors
import Mathlib.Data.List.Nodup

/-!
# Collisions of anchors

An anchor is a slug with a number, and the number is left out when it is zero.  Anchors of one slug
are told apart by their numbers, but a heading may have a slug that looks like the numbered slug of
another: after two headings `x` a heading `x-1` comes to an anchor that is taken.  This is the only
way for two anchors to meet (`numbered_eq_numbered_iff`), and so the anchors of a page are distinct
exactly when no slug on it is the numbered slug of an earlier or later one that is repeated often
enough (`nodup_assign_iff`).

The anchor at a position depends on the slugs before it only, and only through the number of those
that are equal to its own (`getElem_assign`).  So two given headings of a page have the same anchor
exactly when one of them is the first with its slug and the slug is the one that numbering makes of
the other (`anchorAt_eq_anchorAt_iff`).
-/

namespace DocComment

namespace Text

theorem ofNat_injective {m n : Nat} (h : ofNat m = ofNat n) : m = n := by
  rw [← Nat.ofDigitChars_ten_toDigits (n := m), ← Nat.ofDigitChars_ten_toDigits (n := n)]
  exact congrArg (Nat.ofDigitChars 10 · 0) h

theorem notMem_ofNat {c : Char} (hc : c.isDigit = false) (n : Nat) : c ∉ ofNat n := by
  intro h
  have hdigit := Nat.isDigit_of_mem_toDigits (by decide) (by decide) h
  rw [hc] at hdigit
  cases hdigit

end Text

namespace Anchors

/-! ## Numbered slugs -/

variable {s t : Text} {m n : Nat}

@[simp] theorem numbered_zero (s : Text) : numbered s 0 = s := rfl

theorem numbered_of_pos (s : Text) (h : 0 < n) : numbered s n = s ++ '-' :: Text.ofNat n :=
  if_neg (Nat.ne_of_gt h)

/-- A numeral has no hyphen, so the last hyphen tells where the slug ends. -/
theorem append_hyphen_inj (h : s ++ '-' :: Text.ofNat m = t ++ '-' :: Text.ofNat n) :
    s = t ∧ m = n := by
  have aux : ∀ {r u : Text} {k l : Nat}, '-' :: Text.ofNat k = r ++ '-' :: Text.ofNat l →
      u ++ r = u ∧ k = l := by
    intro r u k l hr
    cases r with
    | nil => exact ⟨List.append_nil u, Text.ofNat_injective (List.cons.inj hr).2⟩
    | cons c r =>
      refine absurd ?_ (Text.notMem_ofNat (c := '-') (by decide) k)
      rw [(List.cons.inj hr).2]
      exact List.mem_append_right r List.mem_cons_self
  rcases List.append_eq_append_iff.1 h with ⟨r, rfl, hr⟩ | ⟨r, rfl, hr⟩
  · obtain ⟨hs, hn⟩ := aux (u := s) hr
    exact ⟨hs.symm, hn⟩
  · obtain ⟨ht, hn⟩ := aux (u := t) hr
    exact ⟨ht, hn.symm⟩

/-- Two numbered slugs are equal when slug and number are, and else only when one slug is the other
one with a number. -/
theorem numbered_eq_numbered_iff :
    numbered s m = numbered t n ↔
      s = t ∧ m = n ∨ m = 0 ∧ 0 < n ∧ s = numbered t n ∨ n = 0 ∧ 0 < m ∧ t = numbered s m := by
  constructor
  · intro h
    rcases Nat.eq_zero_or_pos m with rfl | hm
    · rcases Nat.eq_zero_or_pos n with rfl | hn
      · exact .inl ⟨h, rfl⟩
      · exact .inr (.inl ⟨rfl, hn, h⟩)
    · rcases Nat.eq_zero_or_pos n with rfl | hn
      · exact .inr (.inr ⟨rfl, hm, h.symm⟩)
      · rw [numbered_of_pos s hm, numbered_of_pos t hn] at h
        exact .inl (append_hyphen_inj h)
  · rintro (⟨rfl, rfl⟩ | ⟨rfl, -, h⟩ | ⟨rfl, -, h⟩)
    · rfl
    · exact h
    · exact h.symm

theorem numbered_ne_self (s : Text) (h : 0 < n) : numbered s n ≠ s := by
  intro heq
  rw [numbered_of_pos s h] at heq
  simpa using congrArg List.length heq

/-! ## Occurrences of a slug -/

/-- Of the elements before an occurrence, so many are equal to it as there were counted. -/
theorem exists_count_take_eq {l : List Text} (h : n < l.count s) :
    ∃ i, ∃ hi : i < l.length, l[i] = s ∧ (l.take i).count s = n := by
  induction l generalizing n with
  | nil => simp at h
  | cons t rest ih =>
    by_cases ht : t = s
    · subst ht
      cases n with
      | zero => exact ⟨0, by simp, rfl, rfl⟩
      | succ n =>
        rw [List.count_cons_self] at h
        obtain ⟨i, hi, hs, hn⟩ := ih (Nat.lt_of_succ_lt_succ h)
        refine ⟨i + 1, Nat.succ_lt_succ hi, hs, ?_⟩
        rw [List.take_succ_cons, List.count_cons_self, hn]
    · rw [List.count_cons_of_ne ht] at h
      obtain ⟨i, hi, hs, hn⟩ := ih h
      refine ⟨i + 1, Nat.succ_lt_succ hi, hs, ?_⟩
      rw [List.take_succ_cons, List.count_cons_of_ne ht, hn]

/-- An occurrence counts for everything after it. -/
theorem count_take_lt {l : List Text} {i k : Nat} (hi : i < l.length) (hk : i < k) :
    (l.take i).count l[i] < (l.take k).count l[i] := by
  calc (l.take i).count l[i]
      < (l.take i).count l[i] + 1 := Nat.lt_succ_self _
    _ = (l.take (i + 1)).count l[i] := by
      rw [List.take_succ_eq_append_getElem hi, List.count_append, List.count_singleton_self]
    _ ≤ (l.take k).count l[i] := (List.take_sublist_take_left hk).count_le _

/-- An occurrence is one more than there are before it. -/
theorem count_take_lt_count {l : List Text} {i : Nat} (hi : i < l.length) :
    (l.take i).count l[i] < l.count l[i] := by
  have h := count_take_lt hi hi
  rwa [List.take_length] at h

/-! ## Anchors in page order -/

/-- The slugs of some headings. -/
def slugsOf (headings : List Text) : List Text := headings.map Slug.ofHeading

@[simp] theorem slugsOf_cons (heading : Text) (rest : List Text) :
    slugsOf (heading :: rest) = Slug.ofHeading heading :: slugsOf rest := rfl

/-- An anchor is the slug with the number of equal slugs before it. -/
theorem getElem_assign (a : Anchors) (headings : List Text) {i : Nat}
    (h : i < (a.assign headings).length) (hi : i < (slugsOf headings).length) :
    (a.assign headings)[i] =
      numbered (slugsOf headings)[i]
        (((slugsOf headings).take i).count (slugsOf headings)[i] +
          a.slugs.count (slugsOf headings)[i]) := by
  induction headings generalizing a i with
  | nil => simp at h
  | cons heading rest ih =>
    cases i with
    | zero => simp [assign, anchor, slugsOf]
    | succ i =>
      have hrest : i < (slugsOf rest).length := Nat.lt_of_succ_lt_succ hi
      have ih := ih (a.register heading) (Nat.lt_of_succ_lt_succ h) hrest
      have hcount : ((slugsOf (heading :: rest)).take (i + 1)).count (slugsOf rest)[i] +
            a.slugs.count (slugsOf rest)[i] =
          ((slugsOf rest).take i).count (slugsOf rest)[i] +
            (a.register heading).slugs.count (slugsOf rest)[i] := by
        rw [slugsOf_cons, List.take_succ_cons, register, List.count_cons, List.count_cons]
        omega
      exact ih.trans (congrArg _ hcount.symm)

/-- On a fresh page nothing comes before the headings. -/
theorem getElem_assign_fresh (headings : List Text) {i : Nat}
    (h : i < (assign {} headings).length) (hi : i < (slugsOf headings).length) :
    (assign {} headings)[i] =
      numbered (slugsOf headings)[i] (((slugsOf headings).take i).count (slugsOf headings)[i]) :=
  getElem_assign {} headings h hi

/-- No two anchors of a fresh page are equal, unless the slug of one heading is the numbered slug of
others, of which there are more than the number says. -/
theorem nodup_assign_iff (headings : List Text) :
    (assign {} headings).Nodup ↔
      ∀ slug n, 0 < n → n < (slugsOf headings).count slug →
        numbered slug n ∉ slugsOf headings := by
  have hlength : (assign {} headings).length = (slugsOf headings).length := by
    rw [length_assign, slugsOf, List.length_map]
  constructor
  · intro hnodup slug n hpos hn hmem
    obtain ⟨j, hj, hjslug, hjn⟩ := exists_count_take_eq hn
    obtain ⟨i, hi, hislug, hin⟩ := exists_count_take_eq (List.count_pos_iff.2 hmem)
    have heq : (assign {} headings)[i] = (assign {} headings)[j] := by
      rw [getElem_assign_fresh headings _ hi, getElem_assign_fresh headings _ hj, hislug, hin,
        hjslug, hjn]
      rfl
    have hij : i = j := (hnodup.getElem_inj_iff).1 heq
    subst hij
    exact numbered_ne_self slug hpos (hislug.symm.trans hjslug)
  · intro h
    rw [List.nodup_iff_pairwise_ne, List.pairwise_iff_getElem]
    intro i j hi hj hij heq
    rw [hlength] at hi hj
    rw [getElem_assign_fresh headings _ hi, getElem_assign_fresh headings _ hj] at heq
    rcases numbered_eq_numbered_iff.1 heq with ⟨hslug, hcount⟩ | ⟨-, hpos, hslug⟩ | ⟨-, hpos, hslug⟩
    · have hlt := count_take_lt hi hij
      rw [hslug] at hcount hlt
      exact absurd hcount (Nat.ne_of_lt hlt)
    · exact h _ _ hpos (count_take_lt_count hj) (hslug ▸ List.getElem_mem hi)
    · exact h _ _ hpos (count_take_lt_count hi) (hslug ▸ List.getElem_mem hj)

/-- The second `x` and the heading `x-1` come to the same anchor. -/
theorem not_nodup_assign : ¬ (assign {} ["x".toList, "x".toList, "x-1".toList]).Nodup := by
  decide +kernel

/-! ## Pairs of headings -/

section Pairs

variable (headings : List Text) (i j : Fin headings.length)

/-- The slug of a heading, given its place on the page. -/
def slugAt : Text := Slug.ofHeading headings[i]

/-- How many headings before a place have the slug of the heading there. -/
def earlierAt : Nat := (headings.take i).countP (Slug.ofHeading · = slugAt headings i)

/-- The anchor of a heading, given its place on a fresh page. -/
def anchorAt : Text := (assign {} headings).get (i.cast (length_assign {} headings).symm)

/-- The heading at a place is the first with its slug, and the slug is that of another heading,
which is repeated, with the number that this one has. -/
structure TakesNumberOf : Prop where
  first : earlierAt headings i = 0
  repeated : 1 ≤ earlierAt headings j
  slug_eq : slugAt headings i = slugAt headings j ++ '-' :: Text.ofNat (earlierAt headings j)

variable {headings i j}

theorem lt_length_slugsOf (i : Fin headings.length) : (i : Nat) < (slugsOf headings).length := by
  rw [slugsOf, List.length_map]
  exact i.isLt

theorem getElem_slugsOf (i : Fin headings.length) :
    (slugsOf headings).get ⟨i, lt_length_slugsOf i⟩ = slugAt headings i :=
  List.getElem_map _

theorem earlierAt_eq_count (i : Fin headings.length) :
    earlierAt headings i = ((slugsOf headings).take i).count (slugAt headings i) := by
  rw [earlierAt, slugsOf, ← List.map_take, List.count, List.countP_map]
  exact List.countP_congr fun _ _ ↦ by simp

theorem anchorAt_eq_numbered (i : Fin headings.length) :
    anchorAt headings i = numbered (slugAt headings i) (earlierAt headings i) := by
  rw [earlierAt_eq_count, ← getElem_slugsOf]
  exact getElem_assign_fresh headings _ (lt_length_slugsOf i)

/-- Of two headings with one slug, the later has more of them before it. -/
theorem earlierAt_lt_of_lt (hij : i < j) (hslug : slugAt headings i = slugAt headings j) :
    earlierAt headings i < earlierAt headings j := by
  rw [earlierAt_eq_count, earlierAt_eq_count j, ← hslug, ← getElem_slugsOf]
  exact count_take_lt (lt_length_slugsOf i) hij

theorem earlierAt_ne (hij : i ≠ j) (hslug : slugAt headings i = slugAt headings j) :
    earlierAt headings i ≠ earlierAt headings j := by
  rcases Nat.lt_or_gt_of_ne (Fin.val_ne_of_ne hij) with hlt | hgt
  · exact Nat.ne_of_lt (earlierAt_lt_of_lt hlt hslug)
  · exact Nat.ne_of_gt (earlierAt_lt_of_lt hgt hslug.symm)

theorem TakesNumberOf.slug_ne (h : TakesNumberOf headings i j) :
    slugAt headings i ≠ slugAt headings j := by
  intro hslug
  have hself := h.slug_eq.symm.trans hslug
  simpa using congrArg List.length hself

theorem takesNumberOf_iff :
    TakesNumberOf headings i j ↔
      earlierAt headings i = 0 ∧ 0 < earlierAt headings j ∧
        slugAt headings i = numbered (slugAt headings j) (earlierAt headings j) := by
  constructor
  · rintro ⟨hfirst, hrepeated, hslug⟩
    exact ⟨hfirst, hrepeated, hslug.trans (numbered_of_pos _ hrepeated).symm⟩
  · rintro ⟨hfirst, hrepeated, hslug⟩
    exact ⟨hfirst, hrepeated, hslug.trans (numbered_of_pos _ hrepeated)⟩

/-- Two headings of a page have the same anchor when one of them is the first with its slug and this
slug is that of the other with its number, and else they have different ones; so headings with one
slug always have different anchors.  Nothing but the slug of a heading and the number of earlier
headings that share it decides on its anchor, on this page or any other. -/
theorem anchorAt_eq_anchorAt_iff (headings : List Text) {i j : Fin headings.length} (hij : i ≠ j) :
    (anchorAt headings i = anchorAt headings j ↔
      TakesNumberOf headings i j ∨ TakesNumberOf headings j i) ∧
    (slugAt headings i = slugAt headings j → anchorAt headings i ≠ anchorAt headings j) ∧
    ∀ (other : List Text) (k : Fin other.length), slugAt other k = slugAt headings i →
      earlierAt other k = earlierAt headings i → anchorAt other k = anchorAt headings i := by
  have hiff : anchorAt headings i = anchorAt headings j ↔
      TakesNumberOf headings i j ∨ TakesNumberOf headings j i := by
    rw [anchorAt_eq_numbered, anchorAt_eq_numbered, numbered_eq_numbered_iff, takesNumberOf_iff,
      takesNumberOf_iff, or_iff_right]
    exact fun h ↦ earlierAt_ne hij h.1 h.2
  refine ⟨hiff, fun hslug heq ↦ ?_, fun other k hslug hearlier ↦ ?_⟩
  · rcases hiff.1 heq with h | h
    · exact h.slug_ne hslug
    · exact h.slug_ne hslug.symm
  · rw [anchorAt_eq_numbered, anchorAt_eq_numbered, hslug, hearlier]

/-- Headings without a slug are repeated, too: the number of the second one makes the slug of the
third, which is the first with it. -/
theorem anchorAt_eq_anchorAt_iff_empty :
    let headings := ["!".toList, "?".toList, "-1".toList]
    TakesNumberOf headings 2 1 ∧ anchorAt headings 2 = anchorAt headings 1 ∧
      slugAt headings 0 = slugAt headings 1 ∧ anchorAt headings 0 ≠ anchorAt headings 1 := by
  intro headings
  have hslug : slugAt headings 0 = slugAt headings 1 := by decide +kernel
  have htakes : TakesNumberOf headings 2 1 :=
    ⟨by decide +kernel, by decide +kernel, by decide +kernel⟩
  have hcollide := anchorAt_eq_anchorAt_iff headings (i := 2) (j := 1) (by decide)
  have hapart := anchorAt_eq_anchorAt_iff headings (i := 0) (j := 1) (by decide)
  exact ⟨htakes, hcollide.1.2 (.inl htakes), hslug, hapart.2.1 hslug⟩

end Pairs

end Anchors

end DocComment
