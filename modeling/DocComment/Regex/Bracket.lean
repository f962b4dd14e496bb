import DocComment.Regex.Atom

/-!
# Classes in brackets

Between brackets stand characters, ranges, named classes and further brackets, any of which an
operator may join into operands.  All that is kept of a class is how deep its parts are nested.
-/

namespace DocComment.Regex

/-- How deep parts that stand side by side are nested together: a single one as deep as it is, and
several one deeper than the deepest of them. -/
def joinedDepth : List Nat → Nat
  | [] => 0
  | [depth] => depth
  | depths => depths.foldl max 0 + 1

/-- The names of the classes between colons. -/
def classNames : List Text :=
  ["alnum", "alpha", "ascii", "blank", "cntrl", "digit", "graph", "lower", "print", "punct",
    "space", "upper", "word", "xdigit"].map String.toList

/-- Whether the class between colons that the text after an opening bracket begins with is negated,
and the rest. -/
def namedClass? : Text → Option (Bool × Text)
  | ':' :: t =>
    let isNegated := t.head? = some '^'
    let t := if isNegated then t.tail else t
    match t.dropWhile (· ≠ ':') with
    | ':' :: ']' :: rest =>
      if classNames.contains (t.takeWhile (· ≠ ':')) then some (isNegated, rest) else none
    | _ => none
  | _ => none

/-! ## Members -/

/-- The character or the escape that a text begins with, and the rest. -/
def bracketAtom? (m : Mode) : Text → Option (Atom × Text)
  | [] => none
  | '\\' :: rest => escape? m rest
  | c :: rest => some (.char c, rest)

/-- What is left after the range from an atom to the one that a text begins with. -/
def rangeFrom? (m : Mode) (first : Atom) (t : Text) : Option Text :=
  (bracketAtom? m (m.skip t)).bind fun (last, rest) ↦
    match first.char?, last.char? with
    | some a, some b =>
      if a.toNat ≤ b.toNat && first.isMember m && last.isMember m then some rest else none
    | _, _ => none

/-- What is left after the atom or the range that a text begins with.  A hyphen before a closing
bracket or another hyphen makes no range. -/
def member? (m : Mode) (t : Text) : Option Text :=
  (bracketAtom? m t).bind fun (first, rest) ↦
    let single := if first.isMember m then some (m.skip rest) else none
    match m.skip rest with
    | '-' :: after =>
      if m.peek? after = some ']' || m.peek? after = some '-' then single
      else rangeFrom? m first after
    | _ => single

/-! ## Brackets -/

/-- A bracket that is open. -/
structure Bracket where
  isNegated : Bool
  /-- Nothing but hyphens stands in it so far. -/
  isAtStart : Bool := true
  /-- How deep the operands before the last operator are nested. -/
  left : Option Nat := none
  /-- How deep the members after it are nested. -/
  members : List Nat := []
deriving DecidableEq, Repr

namespace Bracket

/-- The bracket that opens before a text, and the rest. -/
def opened (m : Mode) (t : Text) : Bracket × Text :=
  match m.skip t with
  | '^' :: rest => ({ isNegated := true }, rest)
  | rest => ({ isNegated := false }, rest)

/-- The bracket with one more member. -/
def add (b : Bracket) (depth : Nat) : Bracket :=
  { b with isAtStart := false, members := depth :: b.members }

/-- How deep all that stands in the bracket is nested. -/
def contentDepth (b : Bracket) : Nat :=
  match b.left with
  | none => joinedDepth b.members
  | some left => max left (joinedDepth b.members) + 1

/-- The bracket after an operator. -/
def nextOperand (b : Bracket) : Bracket :=
  { b with isAtStart := false, left := some b.contentDepth, members := [] }

/-- How deep the bracket is nested with what stands in it. -/
def depth (b : Bracket) : Nat := b.contentDepth + 1

/-- What is left of a text after the innermost of the open brackets, the others from the inside to
the outside; and how deep the outermost one is nested.  Hyphens at the start of a bracket are
members, and so is a closing bracket that is the first.  Without Unicode no class may be negated.
The fuel bounds the number of members and operators. -/
def depthFrom? (m : Mode) : Nat → Bracket → List Bracket → Text → Option (Nat × Text)
  | 0, _, _, _ => none
  | fuel + 1, b, outer, t =>
    match m.skip t with
    | [] => none
    | c :: rest =>
      if b.isAtStart && c = '-' then
        depthFrom? m fuel { b.add 0 with isAtStart := true } outer rest
      else if c = ']' then
        if b.isAtStart && b.members.isEmpty then depthFrom? m fuel (b.add 0) outer rest
        else if b.isNegated && !m.isUnicode then none
        else match outer with
          | [] => some (b.depth, rest)
          | parent :: outer => depthFrom? m fuel (parent.add b.depth) outer rest
      else if c = '[' then
        match namedClass? rest with
        | some (isNegated, rest) =>
          if isNegated && !m.isUnicode then none else depthFrom? m fuel (b.add 0) outer rest
        | none => depthFrom? m fuel (opened m rest).1 (b :: outer) (opened m rest).2
      else if (c = '&' || c = '-' || c = '~') && rest.head? = some c then
        depthFrom? m fuel b.nextOperand outer rest.tail
      else (member? m (c :: rest)).bind fun rest ↦ depthFrom? m fuel (b.add 0) outer rest

/-- How deep the class whose opening bracket stands before a text is nested, and the rest. -/
def depth? (m : Mode) (t : Text) : Option (Nat × Text) :=
  depthFrom? m (t.length + 1) (opened m t).1 [] (opened m t).2

end Bracket

end DocComment.Regex
