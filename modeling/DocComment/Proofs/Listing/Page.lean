import DocComment.Format
import DocComment.Listing
import DocComment.Proofs.Record.Value
import Mathlib.Data.List.Basic

/-!
# Pages read as listings

The output directory may hold listings, and then a run can come upon one of its own pages.  A
Markdown page is no JSON text.  A JSON page is one, and its units are read back as long as none of
them has a record, since a record is an object where a comment has to be a text
(`load_toText_units`).  So a page that is read as a listing at all documents just the units that it
was made of (`documentAll_of_load_render`).
-/

namespace DocComment

/-! ## Pages as listings -/

/-- The unit that a documented unit without a record comes from. -/
def DocumentedUnit.bare (u : DocumentedUnit) : DocUnit := ⟨u.name, u.kind, none⟩

/-- The members of a unit's value are found under their names. -/
theorem DocUnit.optionalMember?_toJson {α : Type} (a b c : Json) (ofJson? : Json → Option α)
    (missing : α) :
    let members := [("name".toList, a), ("kind".toList, b), ("docstring".toList, c)]
    optionalMember? members "name".toList ofJson? missing = ofJson? a ∧
      optionalMember? members "kind".toList ofJson? missing = ofJson? b ∧
      optionalMember? members "docstring".toList ofJson? missing = ofJson? c :=
  ⟨rfl, rfl, rfl⟩

/-- A unit is read back from its value exactly when it has no record. -/
theorem DocUnit.ofJson?_toJson (u : DocumentedUnit) :
    ofJson? u.toJson = if u.record.isNone then some u.bare else none := by
  obtain ⟨name, kind, record⟩ := u
  have hmembers := fun {α} c (ofJson? : Json → Option α) ↦
    optionalMember?_toJson (.string name) (.string kind.word) c ofJson?
  simp only [DocumentedUnit.toJson, ofJson?, ofMembers?, hmembers, nameOfJson?, Kind.ofJson?,
    Kind.ofWord?_word, Option.map_some, Option.bind_eq_bind, Option.bind_some]
  cases record with
  | none => rfl
  | some r => rfl

/-- A list is read element by element, and there is no reading where one element has none. -/
theorem DocUnit.mapM_ofJson?_toJson (us : List DocumentedUnit) :
    (us.map DocumentedUnit.toJson).mapM ofJson? =
      if us.all (·.record.isNone) then some (us.map DocumentedUnit.bare) else none := by
  induction us with
  | nil => rfl
  | cons u us ih =>
    rw [List.map_cons, List.mapM_cons, ofJson?_toJson, ih, List.all_cons]
    cases u.record.isNone <;> cases us.all (·.record.isNone) <;> rfl

/-- A list of objects is no unit, whatever they are. -/
theorem DocUnit.ofElements?_toJson (us : List DocumentedUnit) :
    ofElements? (us.map DocumentedUnit.toJson) = none := by
  match us with
  | [] | [_] | [_, _] | [_, _, _] | _ :: _ :: _ :: _ :: _ => rfl

/-- A JSON page is a listing of its units when none of them has a record, and else of none. -/
theorem Listing.load_toText_units (us : List DocumentedUnit) :
    load (Json.toText (.array (us.map DocumentedUnit.toJson))) =
      if us.all (·.record.isNone) then .ok (us.map DocumentedUnit.bare)
      else .error .noListing := by
  have helements : DocUnit.ofJson? (.array (us.map DocumentedUnit.toJson)) = none :=
    DocUnit.ofElements?_toJson us
  rw [load, Json.read?_toText (plain_units us)]
  simp only [ofJson?, DocUnit.mapM_ofJson?_toJson, helements]
  cases us.all (·.record.isNone) <;> rfl

/-- A JSON page is a listing of its units, without comments, exactly when none of them has a record;
where one has, the page is well-formed and yet no listing. -/
theorem Listing.load_render_json_iff (o : Markdown.Options) (us : List DocumentedUnit) :
    (load (Format.json.render o us) = .ok (us.map fun u ↦ ⟨u.name, u.kind, none⟩) ↔
        ∀ u ∈ us, u.record = none) ∧
      (load (Format.json.render o us) = .error .noListing ↔ ∃ u ∈ us, u.record ≠ none) := by
  have hnone : us.all (·.record.isNone) = true ↔ ∀ u ∈ us, u.record = none := by
    simp only [List.all_eq_true, Option.isNone_iff_eq_none]
  have hsome : (∃ u ∈ us, u.record ≠ none) ↔ ¬∀ u ∈ us, u.record = none := by
    simp only [not_forall, exists_prop]
  rw [Format.render, load_toText_units, hsome, ← hnone]
  cases us.all (·.record.isNone) with
  | true => simp [DocumentedUnit.bare]
  | false => simp

/-- Units without comments are documented as they are. -/
theorem DocUnit.documentAll_bare {us : List DocumentedUnit}
    (h : us.all (·.record.isNone) = true) : documentAll (us.map DocumentedUnit.bare) = us := by
  induction us with
  | nil => rfl
  | cons u us ih =>
    rw [List.all_cons, Bool.and_eq_true, Option.isNone_iff_eq_none] at h
    obtain ⟨name, kind, record⟩ := u
    obtain ⟨rfl, h⟩ := h
    exact congrArg (_ :: ·) (ih h)

/-- A text without a value at its beginning is no listing. -/
theorem Listing.load_ne_ok_of_read? {t : Text} (h : Json.read? t = none) (units : List DocUnit) :
    load t ≠ .ok units := by
  rw [load, h]
  exact nofun

/-- No token begins with the mark of a heading. -/
theorem Json.read?_hash (rest : Text) : read? ('#' :: rest) = none := by
  have hfirst : Token.first? '#' rest = none := rfl
  have hscan : Token.scan ('#' :: rest) = [.bad] := by
    rw [Token.scan, if_neg (by decide)]
    split
    case h_1 => rfl
    case h_2 hsome => rw [hfirst] at hsome; cases hsome
  rw [read?, hscan]
  rfl

/-- A Markdown page is no listing: it is empty, or it begins with a heading. -/
theorem Listing.load_page_ne_ok (o : Markdown.Options) (us : List DocumentedUnit)
    (units : List DocUnit) : load (Markdown.page o us) ≠ .ok units := by
  refine load_ne_ok_of_read? ?_ units
  rw [Markdown.page]
  split
  case isTrue => rw [Json.read?, Json.Token.scan_nil]; rfl
  case isFalse => exact Json.read?_hash _

/-- A page that is a listing documents the units that it was made of. -/
theorem documentAll_of_load_render {f : Format} {o : Markdown.Options} {us : List DocumentedUnit}
    {units : List DocUnit} (h : Listing.load (f.render o us) = .ok units) :
    DocUnit.documentAll units = us := by
  cases f with
  | markdown => exact absurd h (Listing.load_page_ne_ok o us units)
  | json =>
    rw [Format.render, Listing.load_toText_units] at h
    split at h
    case isTrue hnone =>
      cases h
      exact DocUnit.documentAll_bare hnone
    case isFalse => cases h

end DocComment
