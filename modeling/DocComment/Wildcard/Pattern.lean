import DocComment.Text

/-!
# Wildcard patterns

A pattern stands for the texts that it matches.  A question mark matches any character, an asterisk
any run of characters, brackets one of the characters or ranges in them, or, after an exclamation
mark, any other character.  Two asterisks stand for any number of directories and have to be
a path component by themselves.
-/

namespace DocComment.Wildcard

/-- A character or a range of characters between brackets. -/
structure CharRange where
  first : Char
  last : Char
deriving DecidableEq, Repr

/-- Whether the range has a character. -/
def CharRange.contains (r : CharRange) (c : Char) : Bool :=
  r.first.toNat ≤ c.toNat && c.toNat ≤ r.last.toNat

/-- The smallest meaningful piece of a pattern. -/
inductive Token where
  | char (c : Char)
  | anyChar
  | anySequence
  /-- Any number of directories. -/
  | anyDirectories
  | oneOf (ranges : List CharRange)
  | noneOf (ranges : List CharRange)
deriving DecidableEq, Repr

/-- Whether a token stands for a character by itself. -/
def Token.accepts : Token → Char → Bool
  | char d, c => c == d
  | anyChar, _ => true
  | oneOf rs, c => rs.any (·.contains c)
  | noneOf rs, c => !rs.any (·.contains c)
  | anySequence, _ | anyDirectories, _ => false

/-- What is wrong with a pattern. -/
inductive Fault where
  | tooManyAsterisks
  | directoriesNotAlone
  | unclosedRange
deriving DecidableEq, Repr

/-- A fault and the number of characters before it. -/
structure PatternError where
  position : Nat
  fault : Fault
deriving DecidableEq, Repr

/-- The fault in words. -/
def Fault.message : Fault → Text
  | tooManyAsterisks => "wildcards are either regular `*` or recursive `**`".toList
  | directoriesNotAlone => "recursive wildcards must form a single path component".toList
  | unclosedRange => "invalid range pattern".toList

/-- The error in words. -/
def PatternError.message (e : PatternError) : Text :=
  "Pattern syntax error near position ".toList ++ Text.ofNat e.position ++ ": ".toList ++
    e.fault.message

/-- A pattern as a row of tokens. -/
abbrev Pattern := List Token

/-! ## Reading a pattern -/

/-- The ranges that the characters between two brackets stand for. -/
def ranges : Text → List CharRange
  | a :: '-' :: b :: rest => ⟨a, b⟩ :: ranges rest
  | a :: rest => ⟨a, a⟩ :: ranges rest
  | [] => []

/-- The ranges after an opening bracket and the rest, if there is a closing one; the first
character between the brackets may itself be a closing one. -/
def bracketed? : Text → Option (List CharRange × Text)
  | [] => none
  | first :: rest =>
    (Text.splitFirst? (· = ']') rest).map fun cut ↦ (ranges (first :: cut.1), cut.2)

/-- The token that the text after an opening bracket begins with, and the rest. -/
def range? : Text → Option (Token × Text)
  | '!' :: rest => (bracketed? rest).map fun (rs, rest) ↦ (.noneOf rs, rest)
  | rest => (bracketed? rest).map fun (rs, rest) ↦ (.oneOf rs, rest)

/-- What the asterisks at a position stand for, given whether a path component begins there, how
many there are, and what follows them; and what is left of it. -/
def asterisks (position : Nat) (atStart : Bool) (count : Nat) (rest : Text) :
    Except PatternError (Token × Text) :=
  if count = 1 then .ok (.anySequence, rest)
  else if count > 2 then .error ⟨position + 2, .tooManyAsterisks⟩
  else if !atStart then .error ⟨position - 1, .directoriesNotAlone⟩
  else match rest with
    | [] => .ok (.anyDirectories, [])
    | '/' :: rest => .ok (.anyDirectories, rest)
    | _ => .error ⟨position + 2, .directoriesNotAlone⟩

/-- The token that the rest of a pattern begins with, and what is left of it. -/
def next (position : Nat) (atStart : Bool) (c : Char) (rest : Text) :
    Except PatternError (Token × Text) :=
  match c with
  | '?' => .ok (.anyChar, rest)
  | '*' =>
    asterisks position atStart ((rest.takeWhile (· = '*')).length + 1) (rest.dropWhile (· = '*'))
  | '[' => match range? rest with
    | some r => .ok r
    | none => .error ⟨position, .unclosedRange⟩
  | c => .ok (.char c, rest)

/-- The tokens of a text from a position on.  The fuel bounds the number of tokens. -/
def tokensFrom : Nat → Nat → Bool → Text → Except PatternError Pattern
  | 0, _, _, _ => .ok []
  | _, _, _, [] => .ok []
  | fuel + 1, position, atStart, c :: rest =>
    match next position atStart c rest with
    | .error e => .error e
    | .ok (token, left) =>
      let read := (c :: rest).length - left.length
      let atStart := ((c :: rest).take read).getLast? == some '/'
      (tokensFrom fuel (position + read) atStart left).map (token :: ·)

/-- The pattern that a text is. -/
def Pattern.ofText (t : Text) : Except PatternError Pattern := tokensFrom t.length 0 true t

namespace Pattern

/-- Whether a pattern stands for any number of directories. -/
def isRecursive (p : Pattern) : Bool := p.contains .anyDirectories

/-- The text that a pattern without wildcards is. -/
def literal? : Pattern → Option Text
  | [] => some []
  | .char c :: rest => (literal? rest).map (c :: ·)
  | _ :: _ => none

/-! ## Matching -/

/-- For each entry of a list, whether it or any later one is true. -/
def anyFrom : List Bool → List Bool
  | [] => []
  | b :: bs =>
    let later := anyFrom bs
    (b || later.headD false) :: later

/-- For each suffix of a text, the longest first, whether the pattern matches it. -/
def matchedSuffixes : Pattern → Text → List Bool
  | [], t => t.map (fun _ ↦ false) ++ [true]
  | token :: p, t =>
    let rest := matchedSuffixes p t
    match token with
    | .anySequence | .anyDirectories => anyFrom rest
    | token => List.zipWith (fun c matched ↦ token.accepts c && matched) t rest.tail ++ [false]

/-- Whether a pattern matches a text. -/
def isMatch (p : Pattern) (t : Text) : Bool := (matchedSuffixes p t).headD false

end Pattern

end DocComment.Wildcard
