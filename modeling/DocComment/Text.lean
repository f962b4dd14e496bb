import DocComment.Unicode.WhiteSpace

/-!
# Texts

A text is a list of characters.  This file fixes what it means to trim a text, for a text to be
blank, and what its words are; white space is the Unicode property everywhere.  It also holds the
few cuts and substitutions that the rest of the library is written with.
-/

namespace DocComment

open Unicode

/-- A text is the list of its characters. -/
abbrev Text := List Char

namespace Text

/-! ## Trimming -/

/-- The text without its leading white space. -/
def trimStart (t : Text) : Text := t.dropWhile isWhiteSpace

/-- The text without its trailing white space. -/
def trimEnd (t : Text) : Text := (t.reverse.dropWhile isWhiteSpace).reverse

/-- The text without white space at either end. -/
def trim (t : Text) : Text := trimEnd (trimStart t)

/-- A text of white space only; the empty text is one. -/
def isBlank (t : Text) : Bool := t.all isWhiteSpace

@[simp] theorem trim_nil : trim [] = [] := rfl

@[simp] theorem isBlank_nil : isBlank [] = true := rfl

theorem trimStart_eq_nil_iff {t : Text} : trimStart t = [] ↔ isBlank t = true := by
  induction t with
  | nil => simp [trimStart]
  | cons c t ih =>
    by_cases h : isWhiteSpace c <;> simp_all [trimStart, isBlank]

@[simp] theorem isBlank_trimStart (t : Text) : isBlank (trimStart t) = isBlank t := by
  induction t with
  | nil => rfl
  | cons c t ih =>
    by_cases h : isWhiteSpace c <;> simp_all [trimStart, isBlank]

/-- Only a blank text trims to nothing. -/
theorem trim_eq_nil_iff {t : Text} : trim t = [] ↔ isBlank t = true := by
  have hEnd : trim t = (trimStart (trimStart t).reverse).reverse := rfl
  rw [hEnd, List.reverse_eq_nil_iff, trimStart_eq_nil_iff, isBlank, List.all_reverse]
  exact Eq.to_iff (congrArg (· = true) (isBlank_trimStart t))

/-- The trimmed text, unless nothing is left of it. -/
def nonBlank? (t : Text) : Option Text := if isBlank t then none else some (trim t)

/-! ## Words and cuts -/

/-- The longest runs of characters that are not white space, in order. -/
def words (t : Text) : List Text := (t.splitOnP isWhiteSpace).filter (!·.isEmpty)

/-- What lies before and after the first character that satisfies `p`. -/
def splitFirst? (p : Char → Bool) : Text → Option (Text × Text)
  | [] => none
  | c :: rest =>
    if p c then some ([], rest)
    else (splitFirst? p rest).map fun cut ↦ (c :: cut.1, cut.2)

/-- What follows a given beginning, if the text begins so. -/
def after? : Text → Text → Option Text
  | t, [] => some t
  | [], _ :: _ => none
  | a :: t, b :: start => if a = b then after? t start else none

theorem after?_eq_some_iff {t start rest : Text} :
    after? t start = some rest ↔ t = start ++ rest := by
  fun_induction after? t start with
  | case1 t => simp
  | case2 => simp
  | case3 t a start ih => simp [ih]
  | case4 a t b start h => simp [h]

/-- The text with every occurrence of one character replaced by another text. -/
def replaceChar (t : Text) (old : Char) (new : Text) : Text :=
  t.flatMap fun c ↦ if c = old then new else [c]

/-- Pieces joined with the same text between neighbours. -/
def join (separator : Text) (pieces : List Text) : Text := separator.intercalate pieces

/-- The pieces of a text between its line feeds. -/
def paragraphs (t : Text) : List Text := t.splitOn '\n'

/-- The text without a carriage return at its end. -/
def dropReturn (t : Text) : Text := if t.getLast? = some '\r' then t.dropLast else t

/-- The lines of a text.  A line ends with a line feed, which a carriage return may come before; the
last line need not end. -/
def lines (t : Text) : List Text :=
  let pieces := t.paragraphs
  pieces.dropLast.map dropReturn ++ pieces.getLast?.toList.filter (!·.isEmpty)

/-! ## Size and order -/

/-- How many bytes the text takes in UTF-8. -/
def byteSize (t : Text) : Nat := t.foldl (fun size c ↦ size + c.utf8Size) 0

/-- What is left of the text behind so many bytes. -/
def dropBytes : Nat → Text → Text
  | 0, t => t
  | _ + 1, [] => []
  | n + 1, c :: t => dropBytes (n + 1 - c.utf8Size) t

/-- What the text has in its first so many bytes. -/
def takeBytes : Nat → Text → Text
  | 0, _ => []
  | _ + 1, [] => []
  | n + 1, c :: t => if c.utf8Size ≤ n + 1 then c :: takeBytes (n + 1 - c.utf8Size) t else []

/-- Texts by the code points of their characters. -/
def compare : Text → Text → Ordering
  | [], [] => .eq
  | [], _ :: _ => .lt
  | _ :: _, [] => .gt
  | a :: as, b :: bs =>
    if a.toNat < b.toNat then .lt else if b.toNat < a.toNat then .gt else compare as bs

/-! ## Numerals -/

/-- The decimal numeral of a number. -/
def ofNat (n : Nat) : Text := Nat.toDigits 10 n

/-- The value of a hexadecimal digit. -/
def hexValue? (c : Char) : Option Nat :=
  let n := c.toNat
  if 0x30 ≤ n ∧ n ≤ 0x39 then some (n - 0x30)
  else if 0x41 ≤ n ∧ n ≤ 0x46 then some (n - 0x41 + 10)
  else if 0x61 ≤ n ∧ n ≤ 0x66 then some (n - 0x61 + 10)
  else none

end Text

end DocComment
