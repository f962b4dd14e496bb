import DocComment.Json.Number
import DocComment.Json.Quoted

/-!
# Tokens of JSON

A text is cut into tokens from the left, each as long as possible, with white space between them
left out.  Where nothing can be a token the scan ends with the token `bad`.
-/

namespace DocComment.Json

/-- The smallest meaningful piece of a JSON text. -/
inductive Token where
  | openArray
  | closeArray
  | openObject
  | closeObject
  | comma
  | colon
  | null
  | bool (b : Bool)
  | number (literal : Text)
  | string (t : Text)
  | bad
deriving DecidableEq, Repr

namespace Token

/-- The characters that may stand between tokens. -/
def isSpace (c : Char) : Bool := c = ' ' || c = '\t' || c = '\n' || c = '\r'

/-- The number that a text begins with, within the range of double precision, and the rest. -/
def number? (t : Text) : Option (Token × Text) :=
  (Numeral.scan? t).bind fun (x, rest) ↦
    if x.inRange && rest.length < t.length then
      some (.number (t.take (t.length - rest.length)), rest)
    else none

/-- The word that a text begins with, and the rest. -/
def word? (t : Text) (word : Text) (token : Token) : Option (Token × Text) :=
  (t.after? word).map fun rest ↦ (token, rest)

/-- The token that a text begins with, given its first character apart, and the rest. -/
def first? (c : Char) (rest : Text) : Option (Token × Text) :=
  match c with
  | '[' => some (.openArray, rest)
  | ']' => some (.closeArray, rest)
  | '\x7b' => some (.openObject, rest)
  | '\x7d' => some (.closeObject, rest)
  | ',' => some (.comma, rest)
  | ':' => some (.colon, rest)
  | '"' => (Quoted.read? rest).map fun r ↦ (.string r.1, r.2)
  | 'n' => word? rest "ull".toList .null
  | 't' => word? rest "rue".toList (.bool true)
  | 'f' => word? rest "alse".toList (.bool false)
  | c => number? (c :: rest)

theorem length_number? {t rest : Text} {token : Token} (h : number? t = some (token, rest)) :
    rest.length < t.length := by
  simp only [number?, Option.bind_eq_some_iff] at h
  obtain ⟨⟨x, r⟩, -, h⟩ := h
  split at h
  · rename_i hr
    cases h
    simp_all
  · simp at h

theorem length_word? {t rest word : Text} {token token' : Token}
    (h : word? t word token = some (token', rest)) : rest.length ≤ t.length := by
  simp only [word?, Option.map_eq_some_iff, Text.after?_eq_some_iff] at h
  obtain ⟨r, rfl, h⟩ := h
  cases h
  simp

theorem length_first? {c : Char} {t rest : Text} {token : Token}
    (h : first? c t = some (token, rest)) : rest.length ≤ t.length := by
  simp only [first?] at h
  split at h
  case h_7 =>
    obtain ⟨r, hr, h⟩ := Option.map_eq_some_iff.1 h
    cases h
    exact Nat.le_of_lt (Quoted.length_read? hr)
  case h_8 | h_9 | h_10 => exact length_word? h
  case h_11 => exact Nat.le_of_lt_succ (length_number? h)
  all_goals
    cases h
    exact Nat.le_refl _

/-- The tokens of a text. -/
def scan (t : Text) : List Token :=
  match t with
  | [] => []
  | c :: rest =>
    if isSpace c then scan rest
    else match h : first? c rest with
      | none => [.bad]
      | some (token, more) =>
        have := length_first? h
        token :: scan more
termination_by t.length

end Token

end DocComment.Json
