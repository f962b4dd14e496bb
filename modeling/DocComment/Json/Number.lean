import DocComment.Text

/-!
# Numbers in JSON

A number literal is an optional minus sign, a whole part without needless zeros, an optional
fraction and an optional exponent.  Its value has to be within the range of double precision.  The
bound is on the value that the reader forms: the digits that fit into 64 bits, as a double, times
the double nearest to the power of ten that is left.  A literal whose power of ten is negative is
never too large.
-/

namespace DocComment.Json

/-- The parts of a number literal. -/
structure Numeral where
  negative : Bool
  whole : Text
  /-- The digits after the point, if there is one. -/
  fraction : Option Text
  /-- Whether the exponent is negative, and its digits. -/
  exponent : Option (Bool × Text)
deriving DecidableEq, Repr

namespace Numeral

/-! ## Reading a literal -/

/-- The digits that a text begins with, at least one, and the rest. -/
def digits? (t : Text) : Option (Text × Text) :=
  let ds := t.takeWhile Char.isDigit
  if ds.isEmpty then none else some (ds, t.dropWhile Char.isDigit)

/-- The whole part that a text begins with, and the rest; a zero stands alone. -/
def whole? (t : Text) : Option (Text × Text) :=
  (digits? t).bind fun part ↦
    if part.1.head? = some '0' && part.1.length ≠ 1 then none else some part

/-- The fraction that a text begins with, if there is one, and the rest.  There is no reading when
nothing follows the point. -/
def fraction? : Text → Option (Option Text × Text)
  | '.' :: rest => (digits? rest).map fun part ↦ (some part.1, part.2)
  | t => some (none, t)

/-- The sign that an exponent begins with, and the rest. -/
def exponentSign : Text → Bool × Text
  | '+' :: rest => (false, rest)
  | '-' :: rest => (true, rest)
  | t => (false, t)

/-- The exponent that a text begins with, if there is one, and the rest. -/
def exponent? (t : Text) : Option (Option (Bool × Text) × Text) :=
  match t with
  | [] => some (none, [])
  | c :: rest =>
    if c = 'e' || c = 'E' then
      let signed := exponentSign rest
      (digits? signed.2).map fun part ↦ (some (signed.1, part.1), part.2)
    else some (none, t)

/-- The minus sign that a text may begin with, and the rest. -/
def minus : Text → Bool × Text
  | '-' :: rest => (true, rest)
  | t => (false, t)

/-- The longest number literal that a text begins with, and the rest. -/
def scan? (t : Text) : Option (Numeral × Text) := do
  let (negative, t) := minus t
  let (whole, t) ← whole? t
  let (fraction, t) ← fraction? t
  let (exponent, t) ← exponent? t
  some (⟨negative, whole, fraction, exponent⟩, t)

/-! ## The range of double precision -/

/-- The value of a row of digits. -/
def digitsValue (ds : Text) : Nat := ds.foldl (fun n d ↦ 10 * n + (d.toNat - '0'.toNat)) 0

/-- Digits taken into a number as long as it stays below a bound: the number, and how many digits
were taken. -/
def accumulate (bound : Nat) (n : Nat) : Text → Nat × Nat
  | [] => (n, 0)
  | d :: ds =>
    let next := 10 * n + (d.toNat - '0'.toNat)
    if next < bound then
      let rest := accumulate bound next ds
      (rest.1, rest.2 + 1)
    else (n, 0)

/-- The numbers below this bound fit into 64 bits. -/
def significandBound : Nat := Nat.pow 2 64

/-- The digits that count, as a number, and the power of ten that they are multiplied with. -/
def significand (x : Numeral) : Nat × Int :=
  let whole := accumulate significandBound 0 x.whole
  let fraction := accumulate significandBound whole.1 (x.fraction.getD [])
  (fraction.1, (x.whole.length - whole.2 : Nat) - (fraction.2 : Int))

/-- The whole number nearest to `n` that double precision holds; a tie goes to the even one. -/
def nearestDouble (n : Nat) : Nat :=
  let ulp := Nat.pow 2 (n.log2 - 52)
  let below := n / ulp
  let twice := 2 * (n % ulp)
  if twice < ulp || (twice == ulp && below % 2 == 0) then below * ulp else (below + 1) * ulp

/-- The least whole number that is rounded up beyond double precision. -/
def overflowBound : Nat := Nat.pow 2 1024 - Nat.pow 2 970

/-- Whether the significand times a power of ten stays within double precision. -/
def scalesInRange (significand : Nat) (power : Int) : Bool :=
  power < 0 || significand == 0 ||
    (power ≤ 308 &&
      nearestDouble significand * nearestDouble (Nat.pow 10 power.toNat) < overflowBound)

/-- Whether the value is within the range of double precision.  An exponent that 31 bits cannot
hold counts as infinite. -/
def inRange (x : Numeral) : Bool :=
  let (n, power) := x.significand
  match x.exponent with
  | none => scalesInRange n power
  | some (negative, ds) =>
    let e := digitsValue ds
    if e < Nat.pow 2 31 then scalesInRange n (if negative then power - e else power + e)
    else negative || n == 0

end Numeral

end DocComment.Json
