import DocComment.Format
import DocComment.Proofs.Json.RoundTrip

/-!
# Records as values

The value of a record holds no number and nests no deeper than the reader goes, so that its text is
read back (`Json.toText_inj`).  The value keeps every part of the record: the parts stand in a fixed
order under fixed names, an absent text is null and a present one is a text, whatever it says, and
the three states of a deprecation are two truth values and a text.  So a page, or a record by
itself, is known from its text (`Format.render_json_inj`).
-/

namespace DocComment

open Json (Plain plain_object plain_array_map plain_ofText? plain_ofTexts plain_orNull)

/-! ## Values that are read back -/

section Plain

variable {n : Nat}

theorem Deprecation.plain_toJson (d : Deprecation) : Plain n d.toJson := by
  cases d with
  | no => exact .bool false
  | yes => exact .bool true
  | reason text => exact .string text

theorem Record.plain_toJson (r : Record) : Plain (n + 3) r.toJson := by
  have hauthor : ∀ a : Author, Plain (n + 1) a.toJson := fun a ↦
    plain_object ⟨plain_ofText? a.name, plain_ofText? a.email⟩
  have hexample : ∀ e : Example, Plain (n + 1) e.toJson := fun e ↦
    plain_object ⟨plain_ofText? e.caption, .string e.code⟩
  have hlicense : ∀ l : License, Plain (n + 2) l.toJson := fun l ↦
    plain_object ⟨plain_ofText? l.name, plain_ofText? l.text⟩
  have hnamespace : ∀ s : Namespace, Plain (n + 1) s.toJson := fun s ↦
    plain_object ⟨.string s.name, plain_ofText? s.description⟩
  have hparameter : ∀ p : Parameter, Plain (n + 1) p.toJson := fun p ↦
    plain_object ⟨.string p.name, .string p.description⟩
  have hthrow : ∀ t : Throw, Plain (n + 1) t.toJson := fun t ↦
    plain_object ⟨plain_ofText? t.type, plain_ofText? t.description⟩
  exact plain_object ⟨plain_ofText? _, plain_array_map hauthor _, plain_ofTexts _,
    r.deprecated.plain_toJson, plain_array_map hexample _, .bool _, .bool _,
    plain_orNull hlicense _, plain_ofTexts _, plain_array_map hnamespace _,
    plain_array_map hparameter _, .bool _, plain_ofText? _, plain_ofText? _,
    plain_array_map hthrow _, plain_ofTexts _, plain_ofText? _⟩

theorem DocumentedUnit.plain_toJson (u : DocumentedUnit) : Plain (n + 4) u.toJson :=
  plain_object ⟨.string _, .string _, plain_orNull Record.plain_toJson _⟩

end Plain

/-- A page of units nests no deeper than the reader goes. -/
theorem plain_units (us : List DocumentedUnit) :
    Plain Json.maxDepth (.array (us.map DocumentedUnit.toJson)) :=
  plain_array_map (n := 126) DocumentedUnit.plain_toJson us

/-! ## Values that keep what they stand for -/

namespace Json

theorem ofText?_injective : Function.Injective ofText? := by
  rintro (_ | s) (_ | t) h <;> cases h <;> rfl

theorem array_map_injective {α : Type} {toJson : α → Json} (h : Function.Injective toJson) :
    Function.Injective fun xs : List α ↦ array (xs.map toJson) :=
  fun _ _ hxs ↦ List.map_injective_iff.2 h (array.inj hxs)

theorem ofTexts_injective : Function.Injective ofTexts :=
  array_map_injective fun _ _ ↦ string.inj

/-- A part that may be missing is null then, and no value that it has otherwise is. -/
theorem orNull_injective {α : Type} {toJson : α → Json} (h : Function.Injective toJson)
    (hnull : ∀ x, toJson x ≠ null) :
    Function.Injective fun x : Option α ↦ (x.map toJson).getD null := by
  rintro (_ | x) (_ | y) hxy
  · rfl
  · exact absurd hxy.symm (hnull y)
  · exact absurd hxy (hnull x)
  · exact congrArg some (h hxy)

/-- An object with two names is known from the values under them. -/
theorem object_pair_inj {a b : Text} {v v' w w' : Json} :
    object [(a, v), (b, w)] = object [(a, v'), (b, w')] ↔ v = v' ∧ w = w' := by
  simp

end Json

open Json (ofText?_injective ofTexts_injective array_map_injective orNull_injective object_pair_inj)

theorem Author.toJson_injective : Function.Injective Author.toJson := by
  rintro ⟨⟩ ⟨⟩ h
  obtain ⟨hname, hemail⟩ := object_pair_inj.1 h
  rw [Author.mk.injEq]
  exact ⟨ofText?_injective hname, ofText?_injective hemail⟩

/-- A reason is a text, also where it is the word for a truth value. -/
theorem Deprecation.toJson_injective : Function.Injective Deprecation.toJson := by
  rintro (_ | _ | s) (_ | _ | t) h <;> cases h <;> rfl

theorem Example.toJson_injective : Function.Injective Example.toJson := by
  rintro ⟨⟩ ⟨⟩ h
  obtain ⟨hcaption, hcode⟩ := object_pair_inj.1 h
  rw [Example.mk.injEq]
  exact ⟨ofText?_injective hcaption, Json.string.inj hcode⟩

theorem License.toJson_injective : Function.Injective License.toJson := by
  rintro ⟨⟩ ⟨⟩ h
  obtain ⟨hname, htext⟩ := object_pair_inj.1 h
  rw [License.mk.injEq]
  exact ⟨ofText?_injective hname, ofText?_injective htext⟩

theorem Namespace.toJson_injective : Function.Injective Namespace.toJson := by
  rintro ⟨⟩ ⟨⟩ h
  obtain ⟨hname, hdescription⟩ := object_pair_inj.1 h
  rw [Namespace.mk.injEq]
  exact ⟨Json.string.inj hname, ofText?_injective hdescription⟩

theorem Parameter.toJson_injective : Function.Injective Parameter.toJson := by
  rintro ⟨⟩ ⟨⟩ h
  obtain ⟨hname, hdescription⟩ := object_pair_inj.1 h
  rw [Parameter.mk.injEq]
  exact ⟨Json.string.inj hname, Json.string.inj hdescription⟩

theorem Throw.toJson_injective : Function.Injective Throw.toJson := by
  rintro ⟨⟩ ⟨⟩ h
  obtain ⟨htype, hdescription⟩ := object_pair_inj.1 h
  rw [Throw.mk.injEq]
  exact ⟨ofText?_injective htype, ofText?_injective hdescription⟩

theorem Record.toJson_injective : Function.Injective Record.toJson := by
  rintro ⟨⟩ ⟨⟩ h
  simp only [toJson, Json.object.injEq, List.cons.injEq, Prod.mk.injEq, true_and, and_true,
    Json.bool.injEq] at h
  obtain ⟨hdescription, hauthors, hcopyright, hdeprecated, hexamples, hglobal, hignored, hlicense,
    hmemberOf, hnamespaces, hparameters, hprivate, hreturns, hsince, hthrows, htodo,
    hversion⟩ := h
  rw [Record.mk.injEq]
  exact ⟨ofText?_injective hdescription, array_map_injective Author.toJson_injective hauthors,
    ofTexts_injective hcopyright, Deprecation.toJson_injective hdeprecated,
    array_map_injective Example.toJson_injective hexamples, hglobal, hignored,
    orNull_injective License.toJson_injective (fun _ ↦ nofun) hlicense,
    ofTexts_injective hmemberOf, array_map_injective Namespace.toJson_injective hnamespaces,
    array_map_injective Parameter.toJson_injective hparameters, hprivate,
    ofText?_injective hreturns, ofText?_injective hsince,
    array_map_injective Throw.toJson_injective hthrows, ofTexts_injective htodo,
    ofText?_injective hversion⟩

theorem DocUnit.Kind.word_injective : Function.Injective DocUnit.Kind.word := by
  intro k k' h
  have hk := ofWord?_word k
  rw [h, ofWord?_word] at hk
  exact (Option.some.inj hk).symm

theorem DocumentedUnit.toJson_injective : Function.Injective DocumentedUnit.toJson := by
  rintro ⟨name, kind, record⟩ ⟨name', kind', record'⟩ h
  simp only [toJson, Json.object.injEq, List.cons.injEq, Prod.mk.injEq, true_and, and_true,
    Json.string.injEq] at h
  obtain ⟨hname, hkind, hrecord⟩ := h
  have hrecord := orNull_injective Record.toJson_injective (fun _ ↦ nofun) hrecord
  rw [hname, DocUnit.Kind.word_injective hkind, hrecord]

/-! ## Texts that keep what they stand for -/

/-- A page of units is known from its JSON text, and so is a record by itself. -/
theorem Format.render_json_inj :
    (∀ (o o' : Markdown.Options) (us us' : List DocumentedUnit),
        json.render o us = json.render o' us' ↔ us = us') ∧
      ∀ (o o' : Markdown.Options) (r r' : Record),
        json.renderRecord o r = json.renderRecord o' r' ↔ r = r' := by
  have hrecord : ∀ r : Record, Plain Json.maxDepth r.toJson := Record.plain_toJson
  constructor
  · intro o o' us us'
    rw [render, render, Json.toText_inj (plain_units us) (plain_units us')]
    exact (array_map_injective DocumentedUnit.toJson_injective).eq_iff
  · intro o o' r r'
    rw [renderRecord, renderRecord, Json.toText_inj (hrecord r) (hrecord r')]
    exact Record.toJson_injective.eq_iff

end DocComment
