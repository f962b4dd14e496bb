import DocComment.Regex.Bracket
import DocComment.Unicode.Alphanumeric

/-!
# Texts that are regular expressions

A regular expression consists of atoms, classes in brackets, repetitions, groups and alternatives.
What matters here is only whether a text is one; of what it has read the reader keeps the open
groups, the names of groups, and how deep everything is nested.  A brace that opens a count is never
closed, since the place where expressions stand ends at the first closing brace.
-/

namespace DocComment.Regex

open Unicode

/-! ## Groups -/

/-- A part of a sequence. -/
structure Piece where
  /-- How deep the part is nested. -/
  depth : Nat
  /-- Whether a repetition may follow. -/
  isRepeatable : Bool := true
deriving DecidableEq, Repr

/-- A group that is open, or all that stands outside of the groups. -/
structure Group where
  mode : Mode := {}
  /-- How deep the finished alternatives are nested. -/
  alternatives : List Nat := []
  /-- The parts of the last alternative, the last one first. -/
  pieces : List Piece := []
deriving DecidableEq, Repr

namespace Group

/-- How deep the last alternative is nested. -/
def sequenceDepth (g : Group) : Nat := joinedDepth (g.pieces.map Piece.depth)

/-- How deep all that stands in the group is nested. -/
def contentDepth (g : Group) : Nat := joinedDepth (g.sequenceDepth :: g.alternatives)

/-- The group with one more part. -/
def add (g : Group) (p : Piece) : Group := { g with pieces := p :: g.pieces }

/-- The group with its last part repeated, if there is one to repeat. -/
def repeated? (g : Group) : Option Group :=
  match g.pieces with
  | p :: pieces =>
    if p.isRepeatable then some { g with pieces := { depth := p.depth + 1 } :: pieces } else none
  | [] => none

/-- The group after a bar. -/
def nextAlternative (g : Group) : Group :=
  { g with alternatives := g.sequenceDepth :: g.alternatives, pieces := [] }

end Group

/-! ## What an opening parenthesis begins -/

/-- What an opening parenthesis begins. -/
inductive Opening where
  /-- A change of flags up to the end of the group around it. -/
  | flags (change : FlagChange)
  /-- A group, which may have a name and flags of its own. -/
  | group (name : Option Text) (change : FlagChange)
deriving DecidableEq, Repr

/-- Whether a text may be the name of a group. -/
def isGroupName : Text → Bool
  | [] => false
  | first :: rest =>
    (isAlphabetic first || first == '_') &&
      rest.all fun c ↦ isAlphanumeric c || "_.[]".toList.contains c

/-- The group whose name, and the angle bracket behind it, a text begins with, and the rest. -/
def Opening.named? (t : Text) : Option (Opening × Text) :=
  (t.splitFirst? (· = '>')).bind fun (name, rest) ↦
    if isGroupName name then some (.group (some name) {}, rest) else none

/-- The change of flags that a text begins with, for a group or for what follows it; and the
rest. -/
def Opening.flagged? (t : Text) : Option (Opening × Text) :=
  let isEnd (c : Char) : Bool := c == ':' || c == ')'
  let letters := t.takeWhile (!isEnd ·)
  (FlagChange.ofText? letters).bind fun change ↦
    match t.dropWhile (!isEnd ·) with
    | ':' :: rest => some (.group none change, rest)
    | ')' :: rest => if letters.isEmpty then none else some (.flags change, rest)
    | _ => none

/-- What the parenthesis before a text begins, and the rest. -/
def Opening.ofText? (m : Mode) (t : Text) : Option (Opening × Text) :=
  match m.skip t with
  | '?' :: 'P' :: '<' :: rest | '?' :: '<' :: rest => named? rest
  | '?' :: rest => flagged? rest
  | rest => some (.group none {}, rest)

/-! ## Reading -/

/-- What the reader knows about the text that it has read. -/
structure Reading where
  /-- The innermost open group. -/
  group : Group := {}
  /-- The groups around it, from the inside to the outside. -/
  outer : List Group := []
  /-- The names of the groups so far. -/
  names : List Text := []
deriving DecidableEq, Repr

namespace Reading

/-- The reading with one more part. -/
def add (r : Reading) (p : Piece) : Reading := { r with group := r.group.add p }

/-- The reading after what an opening parenthesis begins.  No two groups have the same name. -/
def opened? (r : Reading) : Opening → Option Reading
  | .flags change =>
    let flags : Piece := { depth := 0, isRepeatable := false }
    some { r with group := { r.group.add flags with mode := r.group.mode.changed change } }
  | .group name change =>
    if name.any r.names.contains then none
    else some
      { group := { mode := r.group.mode.changed change }
        outer := r.group :: r.outer
        names := name.toList ++ r.names }

/-- The reading after a closing parenthesis, if there is a group to close. -/
def closed? (r : Reading) : Option Reading :=
  match r.outer with
  | [] => none
  | parent :: outer =>
    some { r with group := parent.add { depth := r.group.contentDepth + 1 }, outer := outer }

/-- The reading after what a text begins with, and the rest. -/
def step? (r : Reading) (c : Char) (rest : Text) : Option (Reading × Text) :=
  match c with
  | '(' => (Opening.ofText? r.group.mode rest).bind fun (o, rest) ↦ (r.opened? o).map (·, rest)
  | ')' => r.closed?.map (·, rest)
  | '|' => some ({ r with group := r.group.nextAlternative }, rest)
  | '[' => (Bracket.depth? r.group.mode rest).map fun (depth, rest) ↦ (r.add { depth }, rest)
  | '?' | '*' | '+' =>
    let rest := if rest.head? = some '?' then rest.tail else rest
    r.group.repeated?.map fun group ↦ ({ r with group }, rest)
  | '\x7b' => none
  | c => (atom? r.group.mode (c :: rest)).bind fun (a, rest) ↦
    if a.isAllowed r.group.mode then some (r.add { depth := 0 }, rest) else none

/-- How deep an expression is nested, given its beginning and the text of the rest.  The fuel bounds
the number of steps. -/
def depthFrom? : Nat → Reading → Text → Option Nat
  | 0, _, _ => none
  | fuel + 1, r, t =>
    match r.group.mode.skip t with
    | [] => if r.outer.isEmpty then some r.group.contentDepth else none
    | c :: rest => (r.step? c rest).bind fun (r, rest) ↦ depthFrom? fuel r rest

end Reading

/-- How deep the regular expression that a text is is nested. -/
def depth? (t : Text) : Option Nat := Reading.depthFrom? (t.length + 1) {} t

/-- The deepest that an expression may be nested. -/
def maxDepth : Nat := 250

/-- Whether a text is a regular expression. -/
def isValid (t : Text) : Bool := (depth? t).any (· ≤ maxDepth)

end DocComment.Regex
