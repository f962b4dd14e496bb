import DocComment.Json.Quoted
import Mathlib.Data.List.Basic

/-!
# Quoted texts

Between quotes a text is spelled character by character (`Spells`).  A character stands for itself,
unless it is a quote, a backslash or a control character; or it is written as an escape, by a letter
or by the digits of its code point, which are cut into two halves beyond the basic plane.

The reader takes a spelling up to the closing quote (`Spells.read_append`), and whatever it takes is
one (`exists_of_read?`).
-/

namespace DocComment.Json.Quoted

/-! ## Spellings -/

/-- Four hexadecimal digits and their value. -/
inductive FourDigits : Nat → Text → Prop
  | mk {a b c d : Char} {w x y z : Nat} (ha : Text.hexValue? a = some w)
      (hb : Text.hexValue? b = some x) (hc : Text.hexValue? c = some y)
      (hd : Text.hexValue? d = some z) :
      FourDigits (((w * 16 + x) * 16 + y) * 16 + z) [a, b, c, d]

/-- The characters with an escape of a single letter, after that letter. -/
def letters : List (Char × Char) :=
  [('"', '"'), ('\\', '\\'), ('/', '/'), ('b', '\x08'), ('f', '\x0c'), ('n', '\n'), ('r', '\r'),
    ('t', '\t')]

/-- A character and the digits of its code point, in one piece or as two halves. -/
inductive CodePoint : Char → Text → Prop
  | whole {n : Nat} {s : Text} (h : FourDigits n s) (hleading : isLeadingHalf n = false)
      (htrailing : isTrailingHalf n = false) : CodePoint (Char.ofNat n) s
  | halves {m n : Nat} {s u : Text} (hs : FourDigits m s) (hleading : isLeadingHalf m = true)
      (hu : FourDigits n u) (htrailing : isTrailingHalf n = true) :
      CodePoint (Char.ofNat (0x10000 + (m - 0xD800) * 0x400 + (n - 0xDC00)))
        (s ++ '\\' :: 'u' :: u)

/-- A character and what follows the backslash in an escape for it. -/
inductive Escapes : Char → Text → Prop
  | letter {c d : Char} (h : (d, c) ∈ letters) : Escapes c [d]
  | codePoint {c : Char} {s : Text} (h : CodePoint c s) : Escapes c ('u' :: s)

/-- A character and a way to write it between quotes. -/
inductive SpellsChar : Char → Text → Prop
  | plain {c : Char} (hquote : c ≠ '"') (hbackslash : c ≠ '\\') (hcontrol : ¬c.toNat < 0x20) :
      SpellsChar c [c]
  | escape {c : Char} {s : Text} (h : Escapes c s) : SpellsChar c ('\\' :: s)

/-- A text and a way to write it between quotes. -/
inductive Spells : Text → Text → Prop
  | nil : Spells [] []
  | cons {c : Char} {t s u : Text} (hc : SpellsChar c s) (ht : Spells t u) :
      Spells (c :: t) (s ++ u)

/-! ## Escapes -/

section Escapes

variable {t rest : Text} {c : Char} {n : Nat}

theorem FourDigits.read_append {s : Text} (h : FourDigits n s) (rest : Text) :
    fourDigits? (s ++ rest) = some (n, rest) := by
  obtain ⟨ha, hb, hc, hd⟩ := h
  simp only [List.cons_append, List.nil_append, fourDigits?, ha, hb, hc, hd, Option.bind_eq_bind,
    Option.bind_some]

theorem exists_of_fourDigits? (h : fourDigits? t = some (n, rest)) :
    ∃ s, FourDigits n s ∧ t = s ++ rest := by
  unfold fourDigits? at h
  split at h
  case h_1 a b c d more =>
    simp only [Option.bind_eq_bind, Option.bind_eq_some_iff] at h
    obtain ⟨w, hw, x, hx, y, hy, z, hz, ⟨⟩⟩ := h
    exact ⟨[a, b, c, d], .mk hw hx hy hz, rfl⟩
  case h_2 => cases h

theorem FourDigits.readTrailing_append {s : Text} (h : FourDigits n s)
    (htrailing : isTrailingHalf n = true) (rest : Text) :
    trailingHalf? ('\\' :: 'u' :: s ++ rest) = some (n, rest) :=
  Option.filter_eq_some_iff.2 ⟨h.read_append rest, htrailing⟩

theorem exists_of_trailingHalf? (h : trailingHalf? t = some (n, rest)) :
    isTrailingHalf n = true ∧ ∃ s, FourDigits n s ∧ t = '\\' :: 'u' :: s ++ rest := by
  unfold trailingHalf? at h
  split at h
  case h_1 more =>
    obtain ⟨hmore, htrailing⟩ := Option.filter_eq_some_iff.1 h
    obtain ⟨s, hs, rfl⟩ := exists_of_fourDigits? hmore
    exact ⟨htrailing, s, hs, rfl⟩
  case h_2 => cases h

/-- No code unit is both the first and the second half of a code point. -/
theorem isTrailingHalf_of_isLeadingHalf (h : isLeadingHalf n = true) :
    isTrailingHalf n = false := by
  simp only [isLeadingHalf, Bool.and_eq_true, decide_eq_true_eq] at h
  simp only [isTrailingHalf, Bool.and_eq_false_iff, decide_eq_false_iff_not]
  omega

theorem CodePoint.read_append {s : Text} (h : CodePoint c s) (rest : Text) :
    codePoint? (s ++ rest) = some (c, rest) := by
  cases h with
  | whole hs hleading htrailing => simp [codePoint?, hs.read_append, hleading, htrailing]
  | halves hs hleading hu htrailing =>
    simp only [List.append_assoc, codePoint?, hs.read_append, Option.bind_eq_bind,
      Option.bind_some, isTrailingHalf_of_isLeadingHalf hleading, hleading,
      hu.readTrailing_append htrailing]
    rfl

theorem exists_of_codePoint? (h : codePoint? t = some (c, rest)) :
    ∃ s, CodePoint c s ∧ t = s ++ rest := by
  simp only [codePoint?, Option.bind_eq_bind, Option.bind_eq_some_iff] at h
  obtain ⟨⟨m, more⟩, hm, h⟩ := h
  obtain ⟨s, hs, rfl⟩ := exists_of_fourDigits? hm
  split at h
  case isTrue => cases h
  case isFalse htrailing =>
    split at h
    case isTrue hleading =>
      obtain ⟨⟨n, more'⟩, hn, h⟩ := Option.bind_eq_some_iff.1 h
      obtain ⟨hhalf, u, hu, rfl⟩ := exists_of_trailingHalf? hn
      obtain ⟨rfl, rfl⟩ := Prod.mk.inj (Option.some.inj h)
      exact ⟨s ++ '\\' :: 'u' :: u, .halves hs hleading hu hhalf, by simp⟩
    case isFalse hleading =>
      cases h
      exact ⟨s, .whole hs (Bool.eq_false_iff.2 hleading) (Bool.eq_false_iff.2 htrailing), rfl⟩

theorem Escapes.read_append {s : Text} (h : Escapes c s) (rest : Text) :
    escaped? (s ++ rest) = some (c, rest) := by
  cases h with
  | letter h =>
    have hletters : letters.Forall fun p ↦ escaped? (p.1 :: rest) = some (p.2, rest) :=
      ⟨rfl, rfl, rfl, rfl, rfl, rfl, rfl, rfl⟩
    exact List.forall_iff_forall_mem.1 hletters _ h
  | codePoint h => exact h.read_append rest

theorem exists_of_escaped? (h : escaped? t = some (c, rest)) :
    ∃ s, Escapes c s ∧ t = s ++ rest := by
  unfold escaped? at h
  split at h
  case h_1 => cases h
  case h_2 d more =>
    split at h
    case h_9 =>
      obtain ⟨s, hs, rfl⟩ := exists_of_codePoint? h
      exact ⟨'u' :: s, .codePoint hs, rfl⟩
    case h_10 => cases h
    all_goals
      cases h
      exact ⟨_, .letter (by decide), rfl⟩

end Escapes

/-! ## Texts -/

/-- A spelled character goes before what is read after it. -/
theorem SpellsChar.read_append {c : Char} {s : Text} (h : SpellsChar c s) (rest : Text) :
    read? (s ++ rest) = (read? rest).map fun r ↦ (c :: r.1, r.2) := by
  cases h with
  | plain hquote hbackslash hcontrol =>
    rw [List.singleton_append, read?, if_neg hquote, if_neg hbackslash, if_neg hcontrol]
  | escape h =>
    rw [List.cons_append, read?, if_neg (by decide), if_pos rfl]
    split
    case h_1 hnone => rw [h.read_append] at hnone; cases hnone
    case h_2 hsome =>
      rw [h.read_append] at hsome
      cases hsome
      rfl

theorem Spells.read_append {t s : Text} (h : Spells t s) (rest : Text) :
    read? (s ++ '"' :: rest) = some (t, rest) := by
  induction h with
  | nil => rw [List.nil_append, read?, if_pos rfl]
  | cons hc _ ih =>
    rw [List.append_assoc, hc.read_append, ih]
    rfl

theorem exists_of_read? {t content rest : Text} (h : read? t = some (content, rest)) :
    ∃ s, Spells content s ∧ t = s ++ '"' :: rest := by
  fun_induction read? t generalizing content with
  | case1 => cases h
  | case2 =>
    cases h
    exact ⟨[], .nil, rfl⟩
  | case3 => cases h
  | case4 _ _ more hd _ _ ih =>
    obtain ⟨⟨content, rest⟩, hread, ⟨⟩⟩ := Option.map_eq_some_iff.1 h
    obtain ⟨s, hs, rfl⟩ := ih hread
    obtain ⟨u, hu, rfl⟩ := exists_of_escaped? hd
    exact ⟨'\\' :: u ++ s, .cons (.escape hu) hs, by simp⟩
  | case5 => cases h
  | case6 c more hquote hbackslash hcontrol ih =>
    obtain ⟨⟨content, rest⟩, hread, ⟨⟩⟩ := Option.map_eq_some_iff.1 h
    obtain ⟨s, hs, rfl⟩ := ih hread
    exact ⟨c :: s, .cons (.plain hquote hbackslash hcontrol) hs, rfl⟩

end DocComment.Json.Quoted
