import DocComment.Path
import Mathlib.Data.List.Induction
import Mathlib.Data.List.Sort

/-!
# The order of paths

Paths are compared component by component, and components by their kinds and then by their texts, so
the order is lexicographic twice over (`Path.precedes_iff`).  It is a strict order in which only
paths with the same components are equal (`Path.compare_eq_eq_iff`).

Sorting inserts one path after the other, and a path that is there already under some spelling is
left out.  The result is strictly increasing, and it has the components of what has been sorted and
no others.  A strictly increasing list is determined by its members, so the components of the result
depend neither on the order of the paths nor on how often each of them is given
(`Path.map_components_sort_eq`).
-/

namespace DocComment

/-- One list comes before another when it does so at the first place where they differ. -/
theorem compareLex_eq_lt_iff {α : Type} {cmp : α → α → Ordering} [Std.LawfulEqCmp cmp]
    {as bs : List α} :
    List.compareLex cmp as bs = .lt ↔ List.Lex (fun a b ↦ cmp a b = .lt) as bs := by
  induction as generalizing bs with
  | nil =>
    cases bs with
    | nil => exact iff_of_false nofun nofun
    | cons b bs => exact iff_of_true List.compareLex_nil_cons .nil
  | cons a as ih =>
    cases bs with
    | nil =>
      rw [List.compareLex_cons_nil]
      exact iff_of_false nofun nofun
    | cons b bs =>
      rw [List.compareLex_cons_cons, Ordering.then_eq_lt, Std.LawfulEqCmp.compare_eq_iff_eq, ih,
        List.cons_lex_cons_iff]

/-! ## Texts -/

namespace Text

theorem compare_eq_compareLex : compare = List.compareLex (compareOn Char.toNat) := by
  funext as bs
  induction as generalizing bs with
  | nil => cases bs <;> rfl
  | cons a as ih =>
    cases bs with
    | nil => rfl
    | cons b bs =>
      rw [compare, List.compareLex_cons_cons, compareOn, Nat.compare_eq_ite_lt, ih]
      split
      case isTrue => rfl
      case isFalse => split <;> rfl

instance : Std.LawfulEqCmp (compareOn Char.toNat) where
  eq_of_compare h := Char.toNat_inj.1 (Std.compare_eq_iff_eq.1 h)

instance : Std.TransCmp Text.compare := compare_eq_compareLex ▸ inferInstance

instance : Std.LawfulEqCmp Text.compare := compare_eq_compareLex ▸ inferInstance

/-- Texts are ordered by the code points of their characters. -/
theorem compare_eq_lt_iff {t s : Text} :
    compare t s = .lt ↔ List.Lex (fun c d ↦ c.toNat < d.toNat) t s := by
  have hchar : (fun c d : Char ↦ compareOn Char.toNat c d = .lt) = fun c d ↦ c.toNat < d.toNat := by
    funext c d
    exact propext Nat.compare_eq_lt
  rw [compare_eq_compareLex, compareLex_eq_lt_iff, hchar]

end Text

namespace Path

variable {p q r : Path} {ps qs : List Path}

/-! ## Components -/

/-- A component comes before one of a later kind, and a name before a name with a later text. -/
def Component.Precedes (a b : Component) : Prop :=
  a.rank < b.rank ∨ a.rank = b.rank ∧ List.Lex (fun c d ↦ c.toNat < d.toNat) a.text b.text

namespace Component

theorem compare_eq_compareLex :
    compare = compareLex (compareOn rank) fun a b ↦ Text.compare a.text b.text := by
  funext a b
  rw [compare, compareLex, compareOn, Nat.compare_eq_ite_lt]
  split
  case isTrue => rfl
  case isFalse => split <;> rfl

instance : Std.TransCmp fun a b : Component ↦ Text.compare a.text b.text where
  eq_swap := Std.OrientedCmp.eq_swap
  isLE_trans := Std.TransCmp.isLE_trans

instance : Std.TransCmp Component.compare := compare_eq_compareLex ▸ inferInstance

instance : Std.LawfulEqCmp Component.compare where
  eq_of_compare {a b} h := by
    rw [compare_eq_compareLex, compareLex, Ordering.then_eq_eq] at h
    obtain ⟨hrank, htext⟩ := h
    have hrank : a.rank = b.rank := Std.compare_eq_iff_eq.1 hrank
    have htext : a.text = b.text := Std.LawfulEqCmp.eq_of_compare htext
    cases a <;> cases b <;> simp_all [rank, text]

theorem compare_eq_lt_iff {a b : Component} : compare a b = .lt ↔ Precedes a b := by
  rw [compare_eq_compareLex, compareLex, Ordering.then_eq_lt, Text.compare_eq_lt_iff, compareOn,
    Nat.compare_eq_lt, Std.compare_eq_iff_eq]
  rfl

end Component

/-! ## Paths -/

/-- A path comes before another when it does so at the first component where they differ. -/
def Precedes (p q : Path) : Prop := List.Lex Component.Precedes p.components q.components

theorem compareComponents_eq : compareComponents = List.compareLex Component.compare := by
  funext as bs
  induction as generalizing bs with
  | nil => cases bs <;> rfl
  | cons a as ih =>
    cases bs with
    | nil => rfl
    | cons b bs => rw [compareComponents, List.compareLex_cons_cons, ih]

instance : Std.TransCmp compareComponents := compareComponents_eq ▸ inferInstance

instance : Std.LawfulEqCmp compareComponents := compareComponents_eq ▸ inferInstance

instance : Std.TransCmp Path.compare where
  eq_swap {p q} := by
    rw [compare, compare]
    exact Std.OrientedCmp.eq_swap
  isLE_trans hpq hqr := by
    rw [compare] at hpq hqr ⊢
    exact Std.TransCmp.isLE_trans hpq hqr

theorem compare_eq_eq_iff : compare p q = .eq ↔ p.components = q.components := by
  rw [compare, Std.LawfulEqCmp.compare_eq_iff_eq]

theorem precedes_iff : Precedes p q ↔ compare p q = .lt := by
  have hcomponents : Component.Precedes = fun a b ↦ a.compare b = .lt := by
    funext a b
    exact propext Component.compare_eq_lt_iff.symm
  rw [Precedes, hcomponents, ← compareLex_eq_lt_iff, ← compareComponents_eq, compare]

theorem Precedes.trans (hpq : Precedes p q) (hqr : Precedes q r) : Precedes p r := by
  rw [precedes_iff] at hpq hqr ⊢
  exact Std.TransCmp.lt_trans hpq hqr

/-- Equal paths come at the same place. -/
theorem Precedes.components_ne (h : Precedes p q) : p.components ≠ q.components := by
  rw [precedes_iff] at h
  intro heq
  rw [compare_eq_eq_iff.2 heq] at h
  cases h

theorem precedes_of_compare_eq_gt (h : compare p q = .gt) : Precedes q p :=
  precedes_iff.2 (Std.OrientedCmp.lt_of_gt h)

/-! ## Sorting -/

/-- What is inserted is there afterwards, in its own spelling or in another one. -/
theorem mem_map_components_insert {cs : List Component} :
    cs ∈ (insert p ps).map components ↔ cs = p.components ∨ cs ∈ ps.map components := by
  induction ps with
  | nil => simp [insert]
  | cons q rest ih =>
    rw [insert]
    split
    case h_1 => rw [List.map_cons, List.mem_cons]
    case h_2 heq =>
      rw [compare_eq_eq_iff.1 heq, List.map_cons, List.mem_cons]
      exact ⟨.inr, fun h ↦ h.elim .inl id⟩
    case h_3 =>
      rw [List.map_cons, List.mem_cons, ih, List.map_cons, List.mem_cons]
      exact or_left_comm

theorem mem_of_mem_insert (h : q ∈ insert p ps) : q = p ∨ q ∈ ps := by
  induction ps with
  | nil => exact .inl (List.mem_singleton.1 h)
  | cons first rest ih =>
    rw [insert] at h
    split at h
    case h_1 => exact List.mem_cons.1 h
    case h_2 => exact .inr h
    case h_3 =>
      rcases List.mem_cons.1 h with rfl | h
      · exact .inr List.mem_cons_self
      · exact (ih h).imp_right (List.mem_cons_of_mem first)

/-- A sorted list stays sorted. -/
theorem pairwise_insert (h : ps.Pairwise Precedes) (p : Path) :
    (insert p ps).Pairwise Precedes := by
  induction ps with
  | nil => exact List.pairwise_singleton Precedes p
  | cons q rest ih =>
    obtain ⟨hq, hrest⟩ := List.pairwise_cons.1 h
    rw [insert]
    split
    case h_1 hlt =>
      have hpq := precedes_iff.2 hlt
      refine List.pairwise_cons.2 ⟨fun r hr ↦ ?_, h⟩
      rcases List.mem_cons.1 hr with rfl | hr
      · exact hpq
      · exact hpq.trans (hq r hr)
    case h_2 => exact h
    case h_3 hgt =>
      refine List.pairwise_cons.2 ⟨fun r hr ↦ ?_, ih hrest⟩
      rcases mem_of_mem_insert hr with rfl | hr
      · exact precedes_of_compare_eq_gt hgt
      · exact hq r hr

theorem sort_concat (ps : List Path) (p : Path) : sort (ps ++ [p]) = insert p (sort ps) :=
  List.foldl_concat ..

theorem pairwise_sort (ps : List Path) : (sort ps).Pairwise Precedes := by
  induction ps using List.reverseRecOn with
  | nil => exact .nil
  | append_singleton ps p ih =>
    rw [sort_concat]
    exact pairwise_insert ih p

theorem mem_map_components_sort {cs : List Component} :
    cs ∈ (sort ps).map components ↔ cs ∈ ps.map components := by
  induction ps using List.reverseRecOn with
  | nil => rfl
  | append_singleton ps p ih =>
    rw [sort_concat, mem_map_components_insert, ih, List.map_append, List.mem_append,
      List.map_singleton, List.mem_singleton]
    exact or_comm

theorem nodup_map_components (h : ps.Pairwise Precedes) : (ps.map components).Nodup :=
  List.pairwise_map.2 (h.imp Precedes.components_ne)

/-- Two sorted lists with the same components have them in the same order. -/
theorem map_components_sort_eq
    (h : ∀ cs, cs ∈ ps.map components ↔ cs ∈ qs.map components) :
    (sort ps).map components = (sort qs).map components := by
  let lt (as bs : List Component) : Prop := compareComponents as bs = .lt
  have : Std.Irrefl lt := ⟨fun as h ↦ by cases Std.ReflCmp.compare_self.symm.trans h⟩
  have : Std.Antisymm lt := ⟨fun as bs h h' ↦ by cases (Std.OrientedCmp.gt_of_lt h).symm.trans h'⟩
  have hsorted : ∀ ps : List Path, ((sort ps).map components).Pairwise lt :=
    fun ps ↦ List.pairwise_map.2 ((pairwise_sort ps).imp precedes_iff.1)
  refine (hsorted ps).eq_of_mem_iff (hsorted qs) fun cs ↦ ?_
  rw [mem_map_components_sort, mem_map_components_sort, h]

end Path

end DocComment
