import DocComment.Regex.Validity

/-!
# Tests of fields

A directive of a log filter may ask for a field by its name, or by its name and its value.  The
value is a number or a regular expression, and what is neither makes the directive malformed.
-/

namespace DocComment.Log

/-! ## Numbers -/

/-- The text without a sign at its beginning. -/
def unsigned : Text → Text
  | '+' :: rest | '-' :: rest => rest
  | rest => rest

/-- Whether a text is the exponent of a number, or nothing. -/
def isExponent : Text → Bool
  | [] => true
  | c :: rest =>
    (c == 'e' || c == 'E') && !(unsigned rest).isEmpty && (unsigned rest).all Char.isDigit

/-- Whether a text is a number in decimal digits, which may have a point among them. -/
def isDecimal (t : Text) : Bool :=
  let whole := t.takeWhile Char.isDigit
  match t.dropWhile Char.isDigit with
  | '.' :: rest =>
    !(whole.isEmpty && (rest.takeWhile Char.isDigit).isEmpty) &&
      isExponent (rest.dropWhile Char.isDigit)
  | rest => !whole.isEmpty && isExponent rest

/-- The names of what is no finite number. -/
def nonFiniteNames : List Text := ["inf", "infinity", "nan"].map String.toList

/-- Whether a text is a number, with or without a sign. -/
def isNumeral (t : Text) : Bool :=
  nonFiniteNames.contains ((unsigned t).map Char.toLower) || isDecimal (unsigned t)

/-! ## Tests -/

/-- A restriction to what has a field of some name, or a field of some name and value. -/
structure FieldTest where
  name : Text
  hasValue : Bool
deriving DecidableEq, Repr

/-- A restriction, read off a name that may be followed by an equals sign and a value.  The value
ends before the next equals sign. -/
def FieldTest.ofText? (t : Text) : Option FieldTest :=
  match t.splitFirst? (· = '=') with
  | none => some { name := t, hasValue := false }
  | some (name, after) =>
    let value := after.takeWhile (· ≠ '=')
    if isNumeral value || Regex.isValid value then some { name, hasValue := true } else none

end DocComment.Log
