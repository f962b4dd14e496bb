import DocComment.DocUnit
import DocComment.Json.Read

/-!
# Listings

A listing is the JSON text of an array of units, or of one unit alone.  A unit is an object with a
name, and perhaps a kind and a comment, or an array of these in this order.  Other members of the
object are ignored; a repeated one of these three is an error.
-/

namespace DocComment

/-- Why a text is no listing. -/
inductive ListingError where
  /-- The text is not well-formed JSON. -/
  | malformedJson
  /-- The value is neither an array of units nor a unit. -/
  | noListing
deriving DecidableEq, Repr

/-- What is wrong with a well-formed value that is no listing, in words. -/
def ListingError.noListingMessage : Text :=
  "invalid unit listing: data did not match any variant of untagged enum Listing".toList

namespace DocUnit

/-- A kind: its word, or an object with its word for the only name and null for the value. -/
def Kind.ofJson? : Json → Option Kind
  | .string word => ofWord? word
  | .object [(word, .null)] => ofWord? word
  | _ => none

/-- A text. -/
def nameOfJson? : Json → Option Text
  | .string t => some t
  | _ => none

/-- A comment: a text, or null where there is none. -/
def commentOfJson? : Json → Option (Option Text)
  | .null => some none
  | .string t => some (some t)
  | _ => none

/-- The value of a member that may be missing; there is none when the member is repeated. -/
def optionalMember? {α : Type} (members : List (Text × Json)) (name : Text)
    (ofJson? : Json → Option α) (missing : α) : Option α :=
  match members.filter (·.1 = name) with
  | [] => some missing
  | [m] => ofJson? m.2
  | _ => none

/-- The unit that an object is. -/
def ofMembers? (members : List (Text × Json)) : Option DocUnit := do
  let name ← optionalMember? members "name".toList (fun v ↦ (nameOfJson? v).map some) none
  let name ← name
  let kind ← optionalMember? members "kind".toList Kind.ofJson? .function
  let comment ← optionalMember? members "docstring".toList commentOfJson? none
  some ⟨name, kind, comment⟩

/-- The unit that an array is. -/
def ofElements? : List Json → Option DocUnit
  | [name] => (nameOfJson? name).map fun name ↦ ⟨name, .function, none⟩
  | [name, kind] => do some ⟨← nameOfJson? name, ← Kind.ofJson? kind, none⟩
  | [name, kind, comment] => do
    some ⟨← nameOfJson? name, ← Kind.ofJson? kind, ← commentOfJson? comment⟩
  | _ => none

/-- The unit that a value is. -/
def ofJson? : Json → Option DocUnit
  | .object members => ofMembers? members
  | .array elements => ofElements? elements
  | _ => none

end DocUnit

namespace Listing

/-- The units that a value lists: those of an array of units, else the one that the value is. -/
def ofJson? (v : Json) : Option (List DocUnit) :=
  let many := match v with
    | .array elements => elements.mapM DocUnit.ofJson?
    | _ => none
  many.or ((DocUnit.ofJson? v).map fun u ↦ [u])

/-- Read a listing.  Whether the value is a listing is decided before anything after it counts. -/
def load (t : Text) : Except ListingError (List DocUnit) :=
  match Json.read? t with
  | none => .error .malformedJson
  | some (v, rest) =>
    match ofJson? v with
    | none => .error .noListing
    | some units => if rest.isEmpty then .ok units else .error .malformedJson

end Listing

end DocComment
