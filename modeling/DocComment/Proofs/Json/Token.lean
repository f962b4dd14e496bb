import DocComment.Json.Token
import DocComment.Proofs.Json.Number
import DocComment.Proofs.Json.Quoted

/-!
# Texts and tokens

A row of tokens is spelled token by token, with as much white space between them as one likes
(`Spelled`); only a number must not be followed by a digit, which would belong to it.  The tokens
that a text is cut into are those that it spells (`spelled_iff_scan_eq`), and where it spells none
the cut says so with the token `bad`.
-/

namespace DocComment.Json.Token

open Numeral (NoDigit Ends)

/-! ## Spellings -/

/-- A token and a spelling of it. -/
inductive Lexeme : Token → Text → Prop
  | openArray : Lexeme .openArray ['[']
  | closeArray : Lexeme .closeArray [']']
  | openObject : Lexeme .openObject ['\x7b']
  | closeObject : Lexeme .closeObject ['\x7d']
  | comma : Lexeme .comma [',']
  | colon : Lexeme .colon [':']
  | null : Lexeme .null "null".toList
  | true : Lexeme (.bool true) "true".toList
  | false : Lexeme (.bool false) "false".toList
  | number {x : Numeral} {s : Text} (h : x.Spells s) (hrange : x.inRange = true) :
      Lexeme (.number s) s
  | string {t s : Text} (h : Quoted.Spells t s) : Lexeme (.string t) ('"' :: (s ++ ['"']))

/-- Some tokens and a text that spells them. -/
inductive Spelled : List Token → Text → Prop
  | nil : Spelled [] []
  | space {c : Char} {ts : List Token} {t : Text} (hc : isSpace c = true) (h : Spelled ts t) :
      Spelled ts (c :: t)
  | token {token : Token} {s t : Text} {ts : List Token} (h : Lexeme token s) (hts : Spelled ts t)
      (hdigit : ∀ literal, token = .number literal → NoDigit t) : Spelled (token :: ts) (s ++ t)

/-! ## Numbers -/

variable {t rest s word : Text} {c : Char} {token token' : Token} {ts : List Token}

/-- What begins like a number is tried as one. -/
theorem first?_eq_number? (h : c = '-' ∨ c.isDigit = true) (rest : Text) :
    first? c rest = number? (c :: rest) := by
  unfold first?
  split
  case h_11 => rfl
  all_goals exact absurd h (by decide)

theorem number?_append {x : Numeral} (h : x.Spells s) (hrange : x.inRange = true)
    (hrest : Ends rest) : number? (s ++ rest) = some (.number s, rest) := by
  have hs : 0 < s.length := by
    obtain ⟨c, more, rfl, -⟩ := h.exists_cons
    exact Nat.succ_pos _
  simp [number?, h.read_append hrest, hrange, hs]

theorem exists_of_number? (h : number? t = some (token, rest)) :
    ∃ s, Lexeme token s ∧ NoDigit rest ∧ t = s ++ rest := by
  obtain ⟨⟨x, more⟩, hscan, h⟩ := Option.bind_eq_some_iff.1 h
  obtain ⟨s, hs, hmore, rfl⟩ := Numeral.exists_of_scan? hscan
  obtain ⟨hrange, h⟩ := Option.ite_none_right_eq_some.1 h
  obtain ⟨rfl, rfl⟩ := Prod.mk.inj (Option.some.inj h)
  refine ⟨s, ?_, hmore, rfl⟩
  rw [List.length_append, Nat.add_sub_cancel, List.take_left]
  exact .number hs (Bool.and_eq_true_iff.1 hrange).1

/-! ## Words -/

theorem word?_append (word : Text) (token : Token) (rest : Text) :
    word? (word ++ rest) word token = some (token, rest) := by
  rw [word?, Text.after?_eq_some_iff.2 rfl]
  rfl

theorem exists_of_word? (h : word? t word token = some (token', rest)) :
    token' = token ∧ t = word ++ rest := by
  simp only [word?, Option.map_eq_some_iff, Text.after?_eq_some_iff] at h
  obtain ⟨rest, rfl, ⟨⟩⟩ := h
  exact ⟨rfl, rfl⟩

/-! ## Rows of tokens -/

@[simp] theorem scan_nil : scan [] = [] := by rw [scan]

theorem scan_space (h : isSpace c = true) (rest : Text) : scan (c :: rest) = scan rest := by
  rw [scan, if_pos h]

theorem scan_cons {more : Text} (hspace : isSpace c = Bool.false)
    (h : first? c rest = some (token, more)) : scan (c :: rest) = token :: scan more := by
  rw [scan, if_neg (Bool.eq_false_iff.1 hspace)]
  split
  case h_1 hnone => rw [h] at hnone; cases hnone
  case h_2 hsome =>
    rw [h] at hsome
    cases hsome
    rfl

/-- A lexeme begins with a character that stands neither between tokens nor inside a number. -/
theorem Lexeme.exists_cons (h : Lexeme token s) :
    ∃ c more, s = c :: more ∧ isSpace c = Bool.false ∧ c ≠ '.' ∧ ¬(c = 'e' ∨ c = 'E') := by
  cases h with
  | number h =>
    obtain ⟨c, more, rfl, hc⟩ := h.exists_cons
    refine ⟨c, more, rfl, ?_⟩
    rcases hc with rfl | hc
    · decide
    · have hne : ∀ d : Char, d.isDigit = Bool.false → c ≠ d := by
        rintro d hd rfl
        rw [hc] at hd
        cases hd
      simp [isSpace, hne]
  | string => exact ⟨_, _, rfl, by decide⟩
  | _ => exact ⟨_, _, rfl, by decide⟩

/-- A lexeme is cut off as its token, whatever follows, unless a number runs into that. -/
theorem Lexeme.scan_append (h : Lexeme token s)
    (hrest : ∀ literal, token = .number literal → Ends rest) :
    scan (s ++ rest) = token :: scan rest := by
  cases h with
  | null => exact scan_cons (by decide) (word?_append _ _ rest)
  | true => exact scan_cons (by decide) (word?_append _ _ rest)
  | false => exact scan_cons (by decide) (word?_append _ _ rest)
  | number h hrange =>
    obtain ⟨c, more, rfl, hc⟩ := h.exists_cons
    obtain ⟨_, _, ⟨⟩, hspace, -⟩ := (Lexeme.number h hrange).exists_cons
    refine scan_cons hspace ?_
    rw [first?_eq_number? hc]
    exact number?_append h hrange (hrest _ rfl)
  | string h =>
    rw [List.cons_append, List.append_assoc]
    exact scan_cons (by decide) (congrArg (Option.map _) (h.read_append rest))
  | _ => exact scan_cons (by decide) rfl

theorem exists_of_first? (h : first? c t = some (token, rest)) :
    ∃ s, Lexeme token s ∧ (∀ literal, token = .number literal → NoDigit rest) ∧
      c :: t = s ++ rest := by
  unfold first? at h
  split at h
  case h_7 =>
    obtain ⟨⟨content, rest⟩, hread, ⟨⟩⟩ := Option.map_eq_some_iff.1 h
    obtain ⟨s, hs, rfl⟩ := Quoted.exists_of_read? hread
    exact ⟨'"' :: (s ++ ['"']), .string hs, nofun, by simp⟩
  case h_8 =>
    obtain ⟨rfl, rfl⟩ := exists_of_word? h
    exact ⟨_, .null, nofun, rfl⟩
  case h_9 =>
    obtain ⟨rfl, rfl⟩ := exists_of_word? h
    exact ⟨_, .true, nofun, rfl⟩
  case h_10 =>
    obtain ⟨rfl, rfl⟩ := exists_of_word? h
    exact ⟨_, .false, nofun, rfl⟩
  case h_11 =>
    obtain ⟨s, hs, hrest, ht⟩ := exists_of_number? h
    exact ⟨s, hs, fun _ _ ↦ hrest, ht⟩
  all_goals
    cases h
    exact ⟨_, by constructor, nofun, rfl⟩

/-- Tokens do not begin like the rest of a number, unless with a digit. -/
theorem Spelled.ends (h : Spelled ts t) (hdigit : NoDigit t) : Ends t := by
  cases h with
  | nil => exact ⟨hdigit, nofun, nofun⟩
  | space hc =>
    refine ⟨hdigit, ?_, ?_⟩
    · rintro ⟨⟩
      exact absurd hc (by decide)
    · rintro _ ⟨⟩ (rfl | rfl) <;> exact absurd hc (by decide)
  | token h =>
    obtain ⟨c, more, rfl, -, hpoint, hmark⟩ := h.exists_cons
    refine ⟨hdigit, fun e ↦ hpoint (Option.some.inj e), ?_⟩
    rintro _ ⟨⟩
    exact hmark

theorem spelled_iff_scan_eq : Spelled ts t ↔ scan t = ts ∧ .bad ∉ ts := by
  constructor
  · intro h
    induction h with
    | nil => exact ⟨scan_nil, nofun⟩
    | space hc _ ih => rwa [scan_space hc]
    | token h hts hdigit ih =>
      -- the row asks only that no digit follows a number: what else could go on with one begins no
      -- token, so that it cannot follow in a text that spells some
      have hscan := h.scan_append fun literal hnumber ↦ hts.ends (hdigit literal hnumber)
      rw [hscan, ih.1]
      refine ⟨rfl, fun hbad ↦ ?_⟩
      rcases List.mem_cons.1 hbad with rfl | hbad
      · cases h
      · exact ih.2 hbad
  · rintro ⟨rfl, hbad⟩
    fun_induction scan t with
    | case1 => exact .nil
    | case2 c rest hc ih => exact .space hc (ih hbad)
    | case3 => exact absurd List.mem_cons_self hbad
    | case4 c rest hc token more h _ ih =>
      obtain ⟨s, hs, hdigit, ht⟩ := exists_of_first? h
      rw [ht]
      exact .token hs (ih fun hmem ↦ hbad (List.mem_cons_of_mem _ hmem)) hdigit

end DocComment.Json.Token
