import DocComment.Listing
import DocComment.Proofs.Json.RoundTrip
import Mathlib.Data.List.Forall2

/-!
# What counts as a listing

A text is a listing of units when the value that it spells is an array of units, or a unit by itself
(`Listing.load_eq_ok_iff_of_read?`).  What a unit is (`DocUnit.Denotes`) is said here without the
reader: an object with a name and perhaps a kind and a comment, none of them twice, or an array of
these in this order.

A unit may be an array, and the elements of a listing are units, so that the two readings of an
array could meet.  They never do (`DocUnit.not_denotes_of_forall₂`): as a unit the array would begin
with a text, and as a listing with a unit, and no text is a unit.
-/

namespace DocComment

namespace DocUnit

/-! ## Units as values -/

/-- The value is a kind: its word, or an object with the word for its only name and null under
it. -/
inductive DenotesKind : Json → Kind → Prop
  | word (k : Kind) : DenotesKind (.string k.word) k
  | tagged (k : Kind) : DenotesKind (.object [(k.word, .null)]) k

/-- The value is a comment, or null where there is none. -/
inductive DenotesComment : Json → Option Text → Prop
  | null : DenotesComment .null none
  | text (t : Text) : DenotesComment (.string t) (some t)

/-- An object has a name once. -/
def HasOnce (members : List (Text × Json)) (name : Text) (v : Json) : Prop :=
  (members.map Prod.fst).count name = 1 ∧ (name, v) ∈ members

/-- What an object says under a name that it need not have but must not have twice. -/
inductive DenotesMember {α : Type} (members : List (Text × Json)) (name : Text)
    (DenotesValue : Json → α → Prop) (missing : α) : α → Prop
  | missing (h : name ∉ members.map Prod.fst) :
      DenotesMember members name DenotesValue missing missing
  | once {v : Json} {x : α} (h : HasOnce members name v) (hv : DenotesValue v x) :
      DenotesMember members name DenotesValue missing x

/-- The value is a unit. -/
inductive Denotes : Json → DocUnit → Prop
  | object {members : List (Text × Json)} {u : DocUnit}
      (name : HasOnce members "name".toList (.string u.name))
      (kind : DenotesMember members "kind".toList DenotesKind .function u.kind)
      (comment : DenotesMember members "docstring".toList DenotesComment none u.comment) :
      Denotes (.object members) u
  | name (t : Text) : Denotes (.array [.string t]) ⟨t, .function, none⟩
  | nameKind (t : Text) {v : Json} {k : Kind} (kind : DenotesKind v k) :
      Denotes (.array [.string t, v]) ⟨t, k, none⟩
  | nameKindComment (t : Text) {v w : Json} {k : Kind} {c : Option Text} (kind : DenotesKind v k)
      (comment : DenotesComment w c) : Denotes (.array [.string t, v, w]) ⟨t, k, c⟩

/-! ## The parts of a unit -/

theorem Kind.ofWord?_eq_some_iff {word : Text} {k : Kind} :
    ofWord? word = some k ↔ word = k.word := by
  constructor
  · intro h
    have hword := List.find?_some h
    exact (of_decide_eq_true hword).symm
  · rintro rfl
    exact ofWord?_word k

theorem Kind.ofJson?_eq_some_iff {v : Json} {k : Kind} : ofJson? v = some k ↔ DenotesKind v k := by
  constructor
  · intro h
    unfold ofJson? at h
    split at h
    · rw [ofWord?_eq_some_iff.1 h]
      exact .word k
    · rw [ofWord?_eq_some_iff.1 h]
      exact .tagged k
    · cases h
  · rintro (_ | _)
    · exact ofWord?_word k
    · exact ofWord?_word k

theorem nameOfJson?_eq_some_iff {v : Json} {t : Text} : nameOfJson? v = some t ↔ v = .string t := by
  cases v <;> simp [nameOfJson?]

theorem commentOfJson?_eq_some_iff {v : Json} {c : Option Text} :
    commentOfJson? v = some c ↔ DenotesComment v c := by
  constructor
  · intro h
    unfold commentOfJson? at h
    split at h
    · cases h
      exact .null
    · cases h
      exact .text _
    · cases h
  · rintro (_ | _) <;> rfl

/-! ## Members -/

section Members

variable {members : List (Text × Json)} {name : Text} {v : Json}

/-- The names of an object, counted through its members. -/
theorem count_names : (members.map Prod.fst).count name = (members.filter (·.1 = name)).length := by
  rw [List.count, List.countP_map, List.countP_eq_length_filter]
  refine congrArg List.length (List.filter_congr fun m _ ↦ ?_)
  rw [Function.comp_apply, beq_eq_decide]

/-- An object does not have a name when there is no member under it. -/
theorem notMem_names_iff : name ∉ members.map Prod.fst ↔ members.filter (·.1 = name) = [] := by
  rw [← List.count_eq_zero, count_names, List.length_eq_zero_iff]

/-- An object has a name once when there is one member under it. -/
theorem hasOnce_iff : HasOnce members name v ↔ members.filter (·.1 = name) = [(name, v)] := by
  have hmem : (name, v) ∈ members ↔ (name, v) ∈ members.filter (·.1 = name) := by simp
  rw [HasOnce, count_names, hmem, List.length_eq_one_iff]
  constructor
  · rintro ⟨⟨m, hm⟩, h⟩
    rw [hm, List.mem_singleton] at h
    rw [hm, h]
  · intro h
    exact ⟨⟨_, h⟩, by rw [h]; exact List.mem_singleton_self _⟩

theorem optionalMember?_eq_some_iff {α : Type} {ofJson? : Json → Option α}
    {DenotesValue : Json → α → Prop} (h : ∀ v x, ofJson? v = some x ↔ DenotesValue v x)
    {missing x : α} :
    optionalMember? members name ofJson? missing = some x ↔
      DenotesMember members name DenotesValue missing x := by
  rw [optionalMember?.eq_def]
  constructor
  · intro hx
    split at hx
    case h_1 hnone =>
      cases hx
      exact .missing (notMem_names_iff.2 hnone)
    case h_2 m hone =>
      have hm : m ∈ members.filter (·.1 = name) := by rw [hone]; exact List.mem_singleton_self m
      have hname : m.1 = name := of_decide_eq_true (List.mem_filter.1 hm).2
      exact .once (hasOnce_iff.2 (hname ▸ hone)) ((h m.2 x).1 hx)
    case h_3 => cases hx
  · rintro (hnone | ⟨hone, hv⟩)
    · rw [notMem_names_iff.1 hnone]
    · rw [hasOnce_iff.1 hone]
      exact (h _ x).2 hv

/-- The name of a unit must not be missing. -/
theorem optionalMember?_name_iff {t : Text} :
    optionalMember? members name (fun v ↦ (nameOfJson? v).map some) none = some (some t) ↔
      HasOnce members name (.string t) := by
  have hvalue : ∀ (v : Json) (x : Option Text),
      (nameOfJson? v).map some = some x ↔ ∃ t, v = .string t ∧ x = some t := by
    intro v x
    simp only [Option.map_eq_some_iff, nameOfJson?_eq_some_iff]
    exact exists_congr fun t ↦ and_congr_right fun _ ↦ eq_comm
  rw [optionalMember?_eq_some_iff hvalue]
  constructor
  · intro h
    generalize hx : some t = x at h
    cases h with
    | missing => cases hx
    | once hone hv =>
      obtain ⟨t', rfl, rfl⟩ := hv
      cases hx
      exact hone
  · intro h
    exact .once h ⟨t, rfl, rfl⟩

end Members

/-! ## Units -/

theorem ofMembers?_eq_some_iff {members : List (Text × Json)} {u : DocUnit} :
    ofMembers? members = some u ↔ Denotes (.object members) u := by
  simp only [ofMembers?, Option.bind_eq_bind, Option.bind_eq_some_iff,
    optionalMember?_eq_some_iff fun _ _ ↦ Kind.ofJson?_eq_some_iff,
    optionalMember?_eq_some_iff fun _ _ ↦ commentOfJson?_eq_some_iff]
  constructor
  · rintro ⟨_, hname, name, rfl, kind, hkind, comment, hcomment, ⟨⟩⟩
    exact .object (optionalMember?_name_iff.1 hname) hkind hcomment
  · rintro ⟨hname, hkind, hcomment⟩
    exact ⟨some u.name, optionalMember?_name_iff.2 hname, u.name, rfl, u.kind, hkind, u.comment,
      hcomment, rfl⟩

theorem ofElements?_eq_some_iff {vs : List Json} {u : DocUnit} :
    ofElements? vs = some u ↔ Denotes (.array vs) u := by
  constructor
  · intro h
    unfold ofElements? at h
    split at h
    · simp only [Option.map_eq_some_iff, nameOfJson?_eq_some_iff] at h
      obtain ⟨t, rfl, rfl⟩ := h
      exact .name t
    · simp only [Option.bind_eq_bind, Option.bind_eq_some_iff, nameOfJson?_eq_some_iff,
        Kind.ofJson?_eq_some_iff] at h
      obtain ⟨t, rfl, k, hkind, ⟨⟩⟩ := h
      exact .nameKind t hkind
    · simp only [Option.bind_eq_bind, Option.bind_eq_some_iff, nameOfJson?_eq_some_iff,
        Kind.ofJson?_eq_some_iff, commentOfJson?_eq_some_iff] at h
      obtain ⟨t, rfl, k, hkind, c, hcomment, ⟨⟩⟩ := h
      exact .nameKindComment t hkind hcomment
    · cases h
  · intro h
    cases h with
    | name t => rfl
    | nameKind t kind => simp [ofElements?, nameOfJson?, Kind.ofJson?_eq_some_iff.2 kind]
    | nameKindComment t kind comment =>
      simp [ofElements?, nameOfJson?, Kind.ofJson?_eq_some_iff.2 kind,
        commentOfJson?_eq_some_iff.2 comment]

/-- The reader takes a value for a unit exactly when it is one. -/
theorem ofJson?_eq_some_iff {v : Json} {u : DocUnit} : ofJson? v = some u ↔ Denotes v u := by
  cases v with
  | object members => exact ofMembers?_eq_some_iff
  | array vs => exact ofElements?_eq_some_iff
  | _ => exact ⟨nofun, nofun⟩

/-- An array of units is no unit: it would begin with a text, and no text is a unit. -/
theorem not_denotes_of_forall₂ {vs : List Json} {us : List DocUnit}
    (h : List.Forall₂ Denotes vs us) (u : DocUnit) : ¬Denotes (.array vs) u := by
  rintro (_ | _ | _ | _) <;> rcases h with _ | ⟨⟨⟩, _⟩

/-- The units of an array are read in order, and all of them have to be units. -/
theorem mapM_ofJson?_eq_some_iff {vs : List Json} {us : List DocUnit} :
    vs.mapM ofJson? = some us ↔ List.Forall₂ Denotes vs us := by
  induction vs generalizing us with
  | nil => simp [eq_comm]
  | cons v vs ih =>
    rw [List.mapM_cons, List.forall₂_cons_left_iff]
    simp only [Option.bind_eq_bind, Option.bind_eq_some_iff, ofJson?_eq_some_iff, ih]
    constructor
    · rintro ⟨u, hu, us, hus, ⟨⟩⟩
      exact ⟨u, us, hu, hus, rfl⟩
    · rintro ⟨u, us, hu, hus, rfl⟩
      exact ⟨u, hu, us, hus, rfl⟩

end DocUnit

/-! ## Listings -/

namespace Listing

open DocUnit (Denotes)

/-- The value lists some units: it is the array of their values, or the value of the only one. -/
inductive Lists : Json → List DocUnit → Prop
  | many {vs : List Json} {us : List DocUnit} (h : List.Forall₂ Denotes vs us) :
      Lists (.array vs) us
  | one {v : Json} {u : DocUnit} (h : Denotes v u) : Lists v [u]

/-- Whether an array is tried as a list of units or as a unit first makes no difference. -/
theorem ofJson?_array_eq_some_iff {vs : List Json} {us : List DocUnit} :
    ofJson? (.array vs) = some us ↔
      List.Forall₂ Denotes vs us ∨ ∃ u, Denotes (.array vs) u ∧ [u] = us := by
  rw [ofJson?, Option.or_eq_some_iff, DocUnit.mapM_ofJson?_eq_some_iff, Option.map_eq_some_iff]
  simp only [DocUnit.ofJson?_eq_some_iff]
  refine or_congr_right ⟨And.right, ?_⟩
  rintro ⟨u, hu, rfl⟩
  refine ⟨Option.eq_none_iff_forall_ne_some.2 fun us hus ↦ ?_, u, hu, rfl⟩
  exact DocUnit.not_denotes_of_forall₂ (DocUnit.mapM_ofJson?_eq_some_iff.1 hus) u hu

theorem ofJson?_eq_some_iff {v : Json} {us : List DocUnit} : ofJson? v = some us ↔ Lists v us := by
  constructor
  · intro h
    cases v with
    | array vs =>
      obtain hvs | ⟨u, hu, rfl⟩ := ofJson?_array_eq_some_iff.1 h
      · exact .many hvs
      · exact .one hu
    | _ =>
      simp only [ofJson?, Option.none_or, Option.map_eq_some_iff] at h
      obtain ⟨u, hu, rfl⟩ := h
      exact .one (DocUnit.ofJson?_eq_some_iff.1 hu)
  · rintro (hvs | @⟨v, u, hu⟩)
    · exact ofJson?_array_eq_some_iff.2 (.inl hvs)
    · cases v with
      | array vs => exact ofJson?_array_eq_some_iff.2 (.inr ⟨u, hu, rfl⟩)
      | _ =>
        simp only [ofJson?, Option.none_or, Option.map_eq_some_iff]
        exact ⟨u, DocUnit.ofJson?_eq_some_iff.2 hu, rfl⟩

theorem load_eq_ok_iff {t : Text} {us : List DocUnit} :
    load t = .ok us ↔ ∃ v, Json.read? t = some (v, []) ∧ Lists v us := by
  rw [load]
  constructor
  · intro h
    split at h
    case h_1 => cases h
    case h_2 v rest hread =>
      split at h
      case h_1 => cases h
      case h_2 units hv =>
        split at h
        case isTrue hrest =>
          cases h
          exact ⟨v, by rw [hread, List.isEmpty_iff.1 hrest], ofJson?_eq_some_iff.1 hv⟩
        case isFalse => cases h
  · rintro ⟨v, hread, hv⟩
    simp only [hread, ofJson?_eq_some_iff.2 hv]
    rfl

/-- A text that is read as a value is a listing exactly when the value is an array of units, which
are listed in order, or a unit, which is listed alone.  A text is read as a value when it spells the
value's tokens and the value nests no deeper than the reader goes; and no value is both an array of
units and a unit. -/
theorem load_eq_ok_iff_of_read? :
    (∀ (t : Text) (v : Json), Json.read? t = some (v, []) →
        ∀ us, load t = .ok us ↔ Lists v us) ∧
      (∀ (t : Text) (v : Json), Json.read? t = some (v, []) ↔
        Json.Nests Json.maxDepth v ∧ Json.Token.Spelled (Json.tokens v) t) ∧
      ∀ vs us, List.Forall₂ Denotes vs us → ∀ u, ¬Denotes (.array vs) u := by
  refine ⟨?_, fun t v ↦ Json.read?_eq_some_nil_iff, ?_⟩
  · intro t v hread us
    simp [load_eq_ok_iff, hread]
  · intro vs us hvs u
    exact DocUnit.not_denotes_of_forall₂ hvs u

/-- The units of a list may be arrays, and objects that say other things twice. -/
theorem load_eq_ok_iff_of_read?_mixed :
    let v : Json := .array [
      .array [.string "a".toList, .object [("class".toList, .null)], .null],
      .object [("x".toList, .null), ("kind".toList, .string "module".toList), ("x".toList, .null),
        ("name".toList, .string "b".toList)]]
    Json.read? (Json.toText v) = some (v, []) ∧
      load (Json.toText v) =
        .ok [⟨"a".toList, .classType, none⟩, ⟨"b".toList, .module, none⟩] := by
  intro v
  have hplain : Json.Plain Json.maxDepth v := by
    refine .array (List.forall_iff_forall_mem.1 ⟨.array ?_, .object ?_⟩)
    · exact List.forall_iff_forall_mem.1 ⟨.string _, Json.plain_object .null, .null⟩
    · exact List.forall_iff_forall_mem.1 ⟨.null, .string _, .null, .string _⟩
  have hread := Json.read?_toText hplain
  refine ⟨hread, (load_eq_ok_iff_of_read?.1 _ v hread _).2 (.many (.cons ?_ (.cons ?_ .nil)))⟩
  · exact .nameKindComment _ (.tagged .classType) .null
  · exact .object ⟨by decide, by simp⟩ (.once ⟨by decide, .tail _ (.head _)⟩ (.word .module))
      (.missing (by decide))

end Listing

end DocComment
