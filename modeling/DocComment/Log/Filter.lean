import DocComment.Log.Event
import DocComment.Log.FieldTest

/-!
# Log filters

A filter is a list of directives, and decides which events are written.  A directive sets a
threshold for everything, for the parts of the program whose names begin in some way, or for the
events that have a certain field.  For each event the most specific of the directives that apply to
it counts, and of equally specific ones the later.
-/

namespace DocComment.Log

open Unicode

/-! ## Thresholds -/

/-- The rank of the least important events that are written; zero for none. -/
abbrev Threshold := Nat

/-- The threshold that a numeral names, which may have a plus sign and needless zeros. -/
def thresholdOfNumeral? (t : Text) : Option Threshold :=
  let digits := if t.head? = some '+' then t.tail else t
  if digits.isEmpty || !digits.all Char.isDigit then none
  else match digits.dropWhile (· = '0') with
    | [] => some 0
    | [d] => if d.toNat ≤ '5'.toNat then some (d.toNat - '0'.toNat) else none
    | _ => none

/-- The threshold that a word names, in letters of either case. -/
def thresholdOfWord? (t : Text) : Option Threshold :=
  let upper := t.map Char.toUpper
  if upper = "OFF".toList then some 0
  else (Level.all.find? (·.word = upper)).map Level.rank

/-- The threshold that a text names. -/
def threshold? (t : Text) : Option Threshold := (thresholdOfNumeral? t).or (thresholdOfWord? t)

/-! ## Directives -/

/-- A threshold with the restrictions under which it applies. -/
structure Directive where
  /-- How the name of a part begins. -/
  target : Option Text := none
  /-- The name of a span of time in which an event has to lie. -/
  span : Option Text := none
  field : Option FieldTest := none
  threshold : Threshold := Level.trace.rank
deriving DecidableEq, Repr

namespace Directive

/-! ### Reading a directive -/

/-- A character that a directive may begin with, the bracket before a span apart. -/
def isTargetStart (c : Char) : Bool := isAlphanumeric c || c == '-' || c == ':' || c == '_'

/-- What a text has in the bytes from where a position of its shape is on. -/
def partFrom (t shape : Text) (start : Nat) : Text := t.dropBytes (Text.byteSize (shape.take start))

/-- What a text has in the bytes between the places of two positions of its shape. -/
def part (t shape : Text) (start stop : Nat) : Text :=
  (partFrom t shape start).takeBytes (Text.byteSize ((shape.take stop).drop start))

/-- What may follow the restrictions, in the shape of a text from a position on: nothing, or an
equals sign and then, in the text itself, a threshold, which is that for everything when it is left
out. -/
def withEnding? (d : Directive) (t shape : Text) (position : Nat) : Option Directive :=
  match shape.drop position with
  | [] => some d
  | '=' :: _ =>
    let level := partFrom t shape (position + 1)
    if level.isEmpty then some d else (threshold? level).map fun r ↦ { d with threshold := r }
  | _ => none

/-- What follows an opening bracket: the name of a span, the test of a field in braces, or both, and
a closing bracket. -/
def ofBrackets? (target : Option Text) (t shape : Text) (start : Nat) : Option Directive :=
  let stop := start + (shape.drop start).findIdx fun c ↦ c == ']' || c == '\x7b'
  let span := part t shape start stop
  match shape.drop stop with
  | ']' :: _ => withEnding? { target, span := some span } t shape (stop + 1)
  | '\x7b' :: test =>
    let last := stop + 1 + test.findIdx (· == '\x7d')
    if last = stop + 1 || (shape.drop (last + 1)).head? ≠ some ']' then none
    else
      let span := if span.isEmpty then none else some span
      (FieldTest.ofText? (part t shape (stop + 1) last)).bind fun field ↦
        withEnding? { target, span, field := some field } t shape (last + 2)
  | _ => none

/-- The directive that a text is.  White space around the text is left out of account when its parts
are told from one another, but counts when they are read: each part is what the text itself has in
the bytes where its trimmed shape has the part. -/
def ofText? (t : Text) : Option Directive :=
  let shape := t.trim
  match shape with
  | [] => none
  | first :: _ =>
    if first ≠ '[' && !isTargetStart first then none
    else
      let stop := shape.findIdx fun c ↦ c == '=' || c == '['
      let target := if stop = 0 then none else some (part t shape 0 stop)
      match shape.drop stop with
      | [] => match threshold? t with
        | some threshold => some { threshold }
        | none => some { target := some t }
      | '[' :: _ => ofBrackets? target t shape (stop + 1)
      | _ => withEnding? { target } t shape stop

/-! ### Applying a directive -/

/-- Whether a directive is about events.  One that asks for a span, or for the value of a field, is
about spans, and the program has none. -/
def isAboutEvents (d : Directive) : Bool := d.span.isNone && !d.field.any FieldTest.hasValue

/-- Whether a directive applies to an event. -/
def appliesTo (d : Directive) (e : Event) : Bool :=
  d.isAboutEvents && d.target.all (·.isPrefixOf e.part.name) &&
    d.field.all fun f ↦ e.fieldNames.contains f.name

/-- Directives by the length of the target, where none is the shortest, and those with equal targets
by the field that they ask for. -/
def compareSpecificity (a b : Directive) : Ordering :=
  let length (d : Directive) : Nat := (d.target.map (·.length + 1)).getD 0
  let fields (d : Directive) : Nat := d.field.toList.length
  let name (d : Directive) : Text := (d.field.map FieldTest.name).getD []
  ((compare (length a) (length b)).then (compare (fields a) (fields b))).then
    (Text.compare (name a) (name b))

/-- Of two directives, the more specific one, or the second one if they are equally specific. -/
def moreSpecific (a b : Directive) : Directive :=
  if a.compareSpecificity b = .gt then a else b

end Directive

/-! ## Filters -/

/-- The directives of a filter, in the order they were given. -/
abbrev Filter := List Directive

namespace Filter

/-- The filter that only lets events of a level pass, and more important ones. -/
def upTo (level : Level) : Filter := [{ threshold := level.rank }]

/-- The directives between the commas of a text; without any, errors alone pass. -/
def ofText? (t : Text) : Option Filter :=
  (((t.splitOn ',').filter (!·.isEmpty)).mapM Directive.ofText?).map fun directives ↦
    if directives.isEmpty then upTo .error else directives

/-- The filter that a setting asks for; warnings pass when there is none, or a malformed one. -/
def ofSetting (setting : Option Text) : Filter := (setting.bind ofText?).getD (upTo .warn)

/-- The directive that decides about an event. -/
def deciding? (f : Filter) (e : Event) : Option Directive :=
  (f.filter (·.appliesTo e)).foldl (fun best d ↦ some (best.elim d (·.moreSpecific d))) none

/-- Whether an event is written. -/
def lets (f : Filter) (e : Event) : Bool :=
  (f.deciding? e).any fun d ↦ e.level.rank ≤ d.threshold

end Filter

end DocComment.Log
