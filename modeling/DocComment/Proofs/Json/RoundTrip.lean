import DocComment.Json.Print
import DocComment.Proofs.Json.Syntax
import Mathlib.Data.List.Basic

/-!
# Written values read back

A value that holds no numbers and nests no deeper than the reader allows is read back from its
written form, and the reader stops right behind it (`read?_toText`).

What is left to show once the reader is known by the tokens it takes is that the written form has
the tokens of the value (`Plain.prints`), for a value in the middle of a text.  Numbers are left out
because only they can run into the text that follows them.
-/

namespace DocComment.Json

/-! ## Quoted texts -/

namespace Quoted

theorem hexValue?_hexDigit (n : Nat) : Text.hexValue? (hexDigit n) = some (n % 16) := by
  have h : ∀ k < 16, Text.hexValue? (Nat.digitChar k) = some k := by decide
  exact h (n % 16) (Nat.mod_lt n (by decide))

/-- The escape of a control character stands for it. -/
theorem codePoint_control {c : Char} (h : c.toNat < 0x20) :
    CodePoint c ['0', '0', hexDigit (c.toNat / 16), hexDigit c.toNat] := by
  have hzero : Text.hexValue? '0' = some 0 := by decide
  have hvalue : ((0 * 16 + 0) * 16 + c.toNat / 16 % 16) * 16 + c.toNat % 16 = c.toNat := by omega
  have hfour : FourDigits c.toNat ['0', '0', hexDigit (c.toNat / 16), hexDigit c.toNat] := by
    have hdigits := FourDigits.mk hzero hzero (hexValue?_hexDigit (c.toNat / 16))
      (hexValue?_hexDigit c.toNat)
    rwa [hvalue] at hdigits
  have hlead : isLeadingHalf c.toNat = false := by
    simp only [isLeadingHalf, Bool.and_eq_false_iff, decide_eq_false_iff_not]
    omega
  have htrail : isTrailingHalf c.toNat = false := by
    simp only [isTrailingHalf, Bool.and_eq_false_iff, decide_eq_false_iff_not]
    omega
  have hwhole := CodePoint.whole hfour hlead htrail
  rwa [Char.ofNat_toNat] at hwhole

theorem spellsChar_escapeChar (c : Char) : SpellsChar c (escapeChar c) := by
  unfold escapeChar
  split
  case h_8 hquote hbackslash _ _ _ _ _ =>
    split
    case isTrue h => exact .escape (.codePoint (codePoint_control h))
    case isFalse h => exact .plain hquote hbackslash h
  all_goals exact .escape (.letter (by decide))

/-- A text is spelled by its written form. -/
theorem spells_escape (t : Text) : Spells t (escape t) := by
  induction t with
  | nil => exact .nil
  | cons c t ih => exact .cons (spellsChar_escapeChar c) ih

end Quoted

/-! ## Tokens -/

namespace Token

@[simp] theorem scan_newLine (depth : Nat) (rest : Text) :
    scan (newLine depth ++ rest) = scan rest := by
  have hspaces : ∀ n, scan (List.replicate n ' ' ++ rest) = scan rest := by
    intro n
    induction n with
    | zero => rfl
    | succ n ih => rw [List.replicate_succ, List.cons_append, scan_space (by decide), ih]
  rw [newLine, List.cons_append, scan_space (by decide), hspaces]

variable (rest : Text)

@[simp] theorem scan_write (t : Text) :
    scan (Quoted.write t ++ rest) = .string t :: scan rest :=
  (Lexeme.string (Quoted.spells_escape t)).scan_append nofun

@[simp] theorem scan_openArray : scan ('[' :: rest) = .openArray :: scan rest :=
  Lexeme.openArray.scan_append nofun

@[simp] theorem scan_closeArray : scan (']' :: rest) = .closeArray :: scan rest :=
  Lexeme.closeArray.scan_append nofun

@[simp] theorem scan_openObject : scan ('\x7b' :: rest) = .openObject :: scan rest :=
  Lexeme.openObject.scan_append nofun

@[simp] theorem scan_closeObject : scan ('\x7d' :: rest) = .closeObject :: scan rest :=
  Lexeme.closeObject.scan_append nofun

@[simp] theorem scan_comma : scan (',' :: rest) = .comma :: scan rest :=
  Lexeme.comma.scan_append nofun

@[simp] theorem scan_colon : scan (": ".toList ++ rest) = .colon :: scan rest := by
  have hcolon : scan (':' :: ' ' :: rest) = .colon :: scan (' ' :: rest) :=
    Lexeme.colon.scan_append nofun
  exact hcolon.trans (congrArg _ (scan_space (by decide) rest))

end Token

/-! ## Values -/

/-- A value without numbers that opens at most so many containers inside one another. -/
inductive Plain : Nat → Json → Prop
  | null {n : Nat} : Plain n null
  | bool {n : Nat} (b : Bool) : Plain n (bool b)
  | string {n : Nat} (t : Text) : Plain n (string t)
  | array {n : Nat} {vs : List Json} (h : ∀ v ∈ vs, Plain n v) : Plain (n + 1) (array vs)
  | object {n : Nat} {ms : List (Text × Json)} (h : ∀ m ∈ ms, Plain n m.2) :
      Plain (n + 1) (object ms)

theorem Plain.nests {n : Nat} {v : Json} (h : Plain n v) : Nests n v := by
  induction h with
  | null => exact .null
  | bool b => exact .bool b
  | string t => exact .string t
  | array _ ih => exact .array ih
  | object _ ih => exact .object ih

section Plain

variable {n : Nat} {α : Type} {toJson : α → Json}

/-- An object is plain when the values of its members are. -/
theorem plain_object {ms : List (Text × Json)} (h : ms.Forall fun m ↦ Plain n m.2) :
    Plain (n + 1) (object ms) :=
  .object (List.forall_iff_forall_mem.1 h)

theorem plain_array_map (h : ∀ x, Plain n (toJson x)) (xs : List α) :
    Plain (n + 1) (array (xs.map toJson)) := by
  refine .array fun v hv ↦ ?_
  obtain ⟨x, -, rfl⟩ := List.mem_map.1 hv
  exact h x

theorem plain_ofTexts (ts : List Text) : Plain (n + 1) (ofTexts ts) :=
  plain_array_map .string ts

theorem plain_orNull (h : ∀ x, Plain n (toJson x)) (x : Option α) :
    Plain n ((x.map toJson).getD null) := by
  cases x with
  | none => exact .null
  | some x => exact h x

theorem plain_ofText? (t : Option Text) : Plain n (ofText? t) := by
  cases t with
  | none => exact .null
  | some t => exact .string t

end Plain

/-- The tokens of a written value are those of the value, whatever is written after it. -/
def Prints (v : Json) : Prop :=
  ∀ (depth : Nat) (rest : Text), Token.scan (print depth v ++ rest) = tokens v ++ Token.scan rest

section Containers

variable (depth : Nat) (rest : Text)

theorem scan_printElements {vs : List Json} (hvs : ∀ v ∈ vs, Prints v) :
    Token.scan (printElements depth vs ++ rest) = elementTokens vs ++ Token.scan rest := by
  induction vs with
  | nil => rfl
  | cons v vs ih =>
    have hv := hvs v List.mem_cons_self depth (printElements depth vs ++ rest)
    simp only [printElements, List.cons_append, List.append_assoc, Token.scan_comma,
      Token.scan_newLine, hv, ih fun w hw ↦ hvs w (List.mem_cons_of_mem v hw), elementTokens]

theorem scan_printMember {m : Text × Json} (hm : Prints m.2) :
    Token.scan (printMember depth m ++ rest) = memberTokens m ++ Token.scan rest := by
  obtain ⟨name, v⟩ := m
  simp only [printMember, List.append_assoc, Token.scan_write, Token.scan_colon, hm depth rest,
    memberTokens, List.cons_append]

theorem scan_printMembers {ms : List (Text × Json)} (hms : ∀ m ∈ ms, Prints m.2) :
    Token.scan (printMembers depth ms ++ rest) = membersTokens ms ++ Token.scan rest := by
  induction ms with
  | nil => rfl
  | cons m ms ih =>
    simp only [printMembers, List.cons_append, List.append_assoc, Token.scan_comma,
      Token.scan_newLine, scan_printMember depth _ (hms m List.mem_cons_self),
      ih fun w hw ↦ hms w (List.mem_cons_of_mem m hw), membersTokens]

end Containers

theorem prints_array {vs : List Json} (hvs : ∀ v ∈ vs, Prints v) : Prints (array vs) := by
  intro depth rest
  cases vs with
  | nil =>
    simp only [print, tokens, List.cons_append, List.nil_append, Token.scan_openArray,
      Token.scan_closeArray]
  | cons v vs =>
    have hv := hvs v List.mem_cons_self (depth + 1)
    have hvs := fun more ↦
      scan_printElements (depth + 1) more fun w hw ↦ hvs w (List.mem_cons_of_mem v hw)
    simp only [print, tokens, List.cons_append, List.append_assoc, List.nil_append,
      Token.scan_openArray, Token.scan_newLine, hv, hvs, Token.scan_closeArray]

theorem prints_object {ms : List (Text × Json)} (hms : ∀ m ∈ ms, Prints m.2) :
    Prints (object ms) := by
  intro depth rest
  cases ms with
  | nil =>
    simp only [print, tokens, List.cons_append, List.nil_append, Token.scan_openObject,
      Token.scan_closeObject]
  | cons m ms =>
    have hm := fun more ↦ scan_printMember (depth + 1) more (hms m List.mem_cons_self)
    have hms := fun more ↦
      scan_printMembers (depth + 1) more fun w hw ↦ hms w (List.mem_cons_of_mem m hw)
    simp only [print, tokens, List.cons_append, List.append_assoc, List.nil_append,
      Token.scan_openObject, Token.scan_newLine, hm, hms, Token.scan_closeObject]

/-- A plain value is written with its tokens. -/
theorem Plain.prints {n : Nat} {v : Json} (h : Plain n v) : Prints v := by
  induction h with
  | null =>
    intro depth rest
    rw [print, Token.Lexeme.null.scan_append nofun]
    rfl
  | bool b =>
    intro depth rest
    cases b with
    | true =>
      rw [print, Token.Lexeme.true.scan_append nofun]
      rfl
    | false =>
      rw [print, Token.Lexeme.false.scan_append nofun]
      rfl
  | string t =>
    intro depth rest
    rw [print, Token.scan_write]
    rfl
  | array _ ih => exact prints_array ih
  | object _ ih => exact prints_object ih

/-- A document is read back as a whole. -/
theorem read?_toText {v : Json} (h : Plain maxDepth v) : read? (toText v) = some (v, []) := by
  rw [read?_eq_some_iff, toText, h.prints, Token.scan_space (by decide), Token.scan_nil]
  exact ⟨h.nests, rfl⟩

/-- A value is known from its document. -/
theorem toText_inj {v w : Json} (hv : Plain maxDepth v) (hw : Plain maxDepth w) :
    toText v = toText w ↔ v = w := by
  refine ⟨fun h ↦ ?_, congrArg toText⟩
  have hread := read?_toText hv
  rw [h, read?_toText hw, Option.some.injEq, Prod.mk.injEq] at hread
  exact hread.1.symm

end DocComment.Json
