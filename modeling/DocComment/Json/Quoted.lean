import DocComment.Text

/-!
# Quoted texts in JSON

Between its quotes a text is written as it is, except for the quote, the backslash and the control
characters below U+0020, which are written as escapes.  The reader takes every escape of the
format, and joins two escapes that are the halves of one code point; half a code point alone is no
text.
-/

namespace DocComment.Json.Quoted

/-! ## Writing -/

/-- A hexadecimal digit in lower case. -/
def hexDigit (n : Nat) : Char := Nat.digitChar (n % 16)

/-- How one character is written between quotes. -/
def escapeChar (c : Char) : Text :=
  match c with
  | '"' => ['\\', '"']
  | '\\' => ['\\', '\\']
  | '\x08' => ['\\', 'b']
  | '\t' => ['\\', 't']
  | '\n' => ['\\', 'n']
  | '\x0c' => ['\\', 'f']
  | '\r' => ['\\', 'r']
  | c =>
    if c.toNat < 0x20 then ['\\', 'u', '0', '0', hexDigit (c.toNat / 16), hexDigit c.toNat]
    else [c]

/-- A text without its quotes. -/
def escape (t : Text) : Text := t.flatMap escapeChar

/-- A text with its quotes. -/
def write (t : Text) : Text := '"' :: escape t ++ ['"']

/-! ## Reading -/

/-- The value of the four hexadecimal digits that a text begins with, and the rest. -/
def fourDigits? : Text → Option (Nat × Text)
  | a :: b :: c :: d :: rest => do
    let a ← Text.hexValue? a
    let b ← Text.hexValue? b
    let c ← Text.hexValue? c
    let d ← Text.hexValue? d
    some (((a * 16 + b) * 16 + c) * 16 + d, rest)
  | _ => none

/-- The first half of a code point beyond the basic plane. -/
def isLeadingHalf (n : Nat) : Bool := 0xD800 ≤ n && n < 0xDC00

/-- The second half of a code point beyond the basic plane. -/
def isTrailingHalf (n : Nat) : Bool := 0xDC00 ≤ n && n < 0xE000

/-- The second half that a text begins with as an escape, and the rest. -/
def trailingHalf? : Text → Option (Nat × Text)
  | '\\' :: 'u' :: rest => (fourDigits? rest).filter fun half ↦ isTrailingHalf half.1
  | _ => none

/-- The character that an escape by code point stands for, and the rest. -/
def codePoint? (t : Text) : Option (Char × Text) := do
  let (n, rest) ← fourDigits? t
  if isTrailingHalf n then none
  else if isLeadingHalf n then
    let (m, rest) ← trailingHalf? rest
    some (Char.ofNat (0x10000 + (n - 0xD800) * 0x400 + (m - 0xDC00)), rest)
  else some (Char.ofNat n, rest)

/-- The character that the text after a backslash begins with, and the rest. -/
def escaped? : Text → Option (Char × Text)
  | [] => none
  | c :: rest =>
    match c with
    | '"' => some ('"', rest)
    | '\\' => some ('\\', rest)
    | '/' => some ('/', rest)
    | 'b' => some ('\x08', rest)
    | 'f' => some ('\x0c', rest)
    | 'n' => some ('\n', rest)
    | 'r' => some ('\r', rest)
    | 't' => some ('\t', rest)
    | 'u' => codePoint? rest
    | _ => none

theorem length_fourDigits? {t rest : Text} {n : Nat} (h : fourDigits? t = some (n, rest)) :
    rest.length < t.length := by
  match t with
  | a :: b :: c :: d :: more =>
    simp only [fourDigits?, Option.bind_eq_bind, Option.bind_eq_some_iff, Option.some.injEq,
      Prod.mk.injEq] at h
    obtain ⟨_, _, _, _, _, _, _, _, _, rfl⟩ := h
    simp only [List.length_cons]
    omega
  | [] | [_] | [_, _] | [_, _, _] => simp [fourDigits?] at h

theorem length_trailingHalf? {t rest : Text} {n : Nat} (h : trailingHalf? t = some (n, rest)) :
    rest.length < t.length := by
  unfold trailingHalf? at h
  split at h
  · have := length_fourDigits? (Option.filter_eq_some_iff.1 h).1
    simp only [List.length_cons]
    omega
  · simp at h

theorem length_codePoint? {t rest : Text} {c : Char} (h : codePoint? t = some (c, rest)) :
    rest.length < t.length := by
  simp only [codePoint?, Option.bind_eq_bind, Option.bind_eq_some_iff] at h
  obtain ⟨⟨n, r⟩, hn, h⟩ := h
  have hr := length_fourDigits? hn
  split at h
  · simp at h
  · split at h
    · obtain ⟨⟨m, q⟩, hm, h⟩ := Option.bind_eq_some_iff.1 h
      have hq := length_trailingHalf? hm
      obtain ⟨-, rfl⟩ := Prod.mk.inj (Option.some.inj h)
      exact Nat.lt_trans hq hr
    · obtain ⟨-, rfl⟩ := Prod.mk.inj (Option.some.inj h)
      exact hr

theorem length_escaped? {t rest : Text} {c : Char} (h : escaped? t = some (c, rest)) :
    rest.length < t.length := by
  match t with
  | [] => simp [escaped?] at h
  | d :: more =>
    simp only [escaped?] at h
    split at h
    case h_9 => exact Nat.lt_succ_of_lt (length_codePoint? h)
    case h_10 => simp at h
    all_goals
      cases h
      simp

/-- The text up to the closing quote, which the opening one has to precede, and the rest. -/
def read? (t : Text) : Option (Text × Text) :=
  match t with
  | [] => none
  | c :: rest =>
    if c = '"' then some ([], rest)
    else if c = '\\' then
      match h : escaped? rest with
      | none => none
      | some (d, more) =>
        have := length_escaped? h
        (read? more).map fun r ↦ (d :: r.1, r.2)
    else if c.toNat < 0x20 then none
    else (read? rest).map fun r ↦ (c :: r.1, r.2)
termination_by t.length

theorem length_read? {t content rest : Text} (h : read? t = some (content, rest)) :
    rest.length < t.length := by
  fun_induction read? t generalizing content with
  | case1 => simp at h
  | case2 => cases h; simp
  | case3 => simp at h
  | case4 _ _ _ hd _ _ ih =>
    obtain ⟨⟨s, q⟩, hs, hq⟩ := Option.map_eq_some_iff.1 h
    cases hq
    exact Nat.lt_succ_of_lt (Nat.lt_trans (ih hs) (length_escaped? hd))
  | case5 => simp at h
  | case6 c rest' _ _ _ ih =>
    obtain ⟨⟨s, q⟩, hs, hq⟩ := Option.map_eq_some_iff.1 h
    cases hq
    exact Nat.lt_succ_of_lt (ih hs)

end DocComment.Json.Quoted
