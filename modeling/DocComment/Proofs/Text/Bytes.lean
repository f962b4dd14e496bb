import DocComment.Text
import Mathlib.Algebra.BigOperators.Group.List.Basic
import Mathlib.Algebra.GroupWithZero.Nat
import Mathlib.Data.List.Induction

/-!
# Texts by their bytes

Sizes in bytes add up (`byteSize_append`), so the text behind as many bytes as a beginning takes is
what comes behind this beginning (`dropBytes_byteSize_append`).
-/

namespace DocComment.Text

theorem byteSize_eq_sum (t : Text) : t.byteSize = (t.map Char.utf8Size).sum := by
  rw [byteSize, List.sum_eq_foldl, List.foldl_map]

theorem byteSize_append (t s : Text) : byteSize (t ++ s) = t.byteSize + s.byteSize := by
  rw [byteSize_eq_sum, List.map_append, List.sum_append, ← byteSize_eq_sum, ← byteSize_eq_sum]

theorem byteSize_cons (c : Char) (t : Text) : byteSize (c :: t) = c.utf8Size + t.byteSize := by
  rw [byteSize_eq_sum, List.map_cons, List.sum_cons, ← byteSize_eq_sum]

/-- Of lines that end with line feeds, each takes one byte more. -/
theorem byteSize_flatMap_feed (lines : List Text) :
    byteSize (lines.flatMap (· ++ ['\n'])) =
      lines.foldl (fun size line ↦ size + (line.byteSize + 1)) 0 := by
  induction lines using List.reverseRecOn with
  | nil => rfl
  | append_singleton init last ih =>
    rw [List.flatMap_append, List.flatMap_singleton, byteSize_append, byteSize_append, ih,
      List.foldl_append]
    rfl

/-- As many bytes as a beginning takes are cut off with it. -/
theorem dropBytes_byteSize_append (t s : Text) : (t ++ s).dropBytes t.byteSize = s := by
  induction t with
  | nil => cases s <;> rfl
  | cons c t ih =>
    obtain ⟨n, hn⟩ := Nat.exists_eq_succ_of_ne_zero (Nat.ne_of_gt c.utf8Size_pos)
    have hsize : byteSize (c :: t) = n + byteSize t + 1 := by
      rw [byteSize_cons, hn, Nat.succ_add]
    have hrest : n + byteSize t + 1 - c.utf8Size = byteSize t := by omega
    rw [hsize, List.cons_append, dropBytes, hrest, ih]

end DocComment.Text
