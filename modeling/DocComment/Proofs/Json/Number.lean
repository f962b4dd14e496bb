import DocComment.Json.Number
import Mathlib.Data.List.TakeWhile

/-!
# Number literals

A literal is spelled part by part (`Spells`).  Every part is read as long as possible, so that a
spelling is read where the text does not go on like a number (`Spells.read_append`), and what is
read is a spelling with no digit behind it (`exists_of_scan?`).
-/

namespace DocComment.Json.Numeral

/-! ## Spellings -/

/-- A row of digits that is not empty. -/
def IsDigits (ds : Text) : Prop := ds ≠ [] ∧ ∀ d ∈ ds, d.isDigit = true

/-- The digits of a whole part; a zero stands alone. -/
def IsWhole (ds : Text) : Prop := IsDigits ds ∧ (ds.head? = some '0' → ds.length = 1)

/-- Whether a number has a minus sign, and the spelling of that. -/
inductive SpellsMinus : Bool → Text → Prop
  | absent : SpellsMinus false []
  | present : SpellsMinus true ['-']

/-- A fraction, if there is one, and its spelling. -/
inductive SpellsFraction : Option Text → Text → Prop
  | absent : SpellsFraction none []
  | point {ds : Text} (h : IsDigits ds) : SpellsFraction (some ds) ('.' :: ds)

/-- Whether an exponent is negative, and a spelling of its sign. -/
inductive SpellsSign : Bool → Text → Prop
  | absent : SpellsSign false []
  | plus : SpellsSign false ['+']
  | minus : SpellsSign true ['-']

/-- An exponent, if there is one, and a spelling of it. -/
inductive SpellsExponent : Option (Bool × Text) → Text → Prop
  | absent : SpellsExponent none []
  | mark {e : Char} {negative : Bool} {sign ds : Text} (he : e = 'e' ∨ e = 'E')
      (hsign : SpellsSign negative sign) (h : IsDigits ds) :
      SpellsExponent (some (negative, ds)) (e :: (sign ++ ds))

/-- A number literal and a spelling of it. -/
inductive Spells : Numeral → Text → Prop
  | mk {x : Numeral} {sign f e : Text} (hsign : SpellsMinus x.negative sign)
      (hwhole : IsWhole x.whole) (hf : SpellsFraction x.fraction f)
      (he : SpellsExponent x.exponent e) : Spells x (sign ++ (x.whole ++ (f ++ e)))

/-- The text does not begin with a digit. -/
def NoDigit (rest : Text) : Prop := ∀ d ∈ rest.head?, d.isDigit = false

/-- The text does not go on like a number. -/
structure Ends (rest : Text) : Prop where
  noDigit : NoDigit rest
  noPoint : rest.head? ≠ some '.'
  noMark : ∀ e ∈ rest.head?, ¬(e = 'e' ∨ e = 'E')

/-! ## Parts -/

variable {t rest ds s : Text}

theorem IsDigits.ne_of_head? (h : IsDigits ds) {c : Char} (hc : c.isDigit = false) (rest : Text) :
    (ds ++ rest).head? ≠ some c := by
  obtain ⟨d, ds, rfl⟩ := List.exists_cons_of_ne_nil h.1
  rintro ⟨⟩
  rw [h.2 c List.mem_cons_self] at hc
  cases hc

theorem IsDigits.read_append (h : IsDigits ds) (hrest : NoDigit rest) :
    digits? (ds ++ rest) = some (ds, rest) := by
  have hnone : rest.takeWhile Char.isDigit = [] ∧ rest.dropWhile Char.isDigit = rest := by
    cases rest with
    | nil => exact ⟨rfl, rfl⟩
    | cons c rest =>
      have hc : ¬c.isDigit = true := Bool.eq_false_iff.1 (hrest c rfl)
      exact ⟨List.takeWhile_cons_of_neg hc, List.dropWhile_cons_of_neg hc⟩
  rw [digits?, List.takeWhile_append_of_pos h.2, List.dropWhile_append_of_pos h.2, hnone.1, hnone.2,
    List.append_nil, if_neg]
  simpa using h.1

theorem exists_of_digits? (h : digits? t = some (ds, rest)) :
    IsDigits ds ∧ NoDigit rest ∧ t = ds ++ rest := by
  obtain ⟨hne, h⟩ := Option.ite_none_left_eq_some.1 h
  obtain ⟨rfl, rfl⟩ := Prod.mk.inj (Option.some.inj h)
  refine ⟨⟨by simpa using hne, fun d hd ↦ List.mem_takeWhile_imp hd⟩, ?_,
    List.takeWhile_append_dropWhile.symm⟩
  intro d hd
  have hhead := List.head?_dropWhile_not Char.isDigit t
  rwa [hd] at hhead

theorem IsWhole.read_append (h : IsWhole ds) (hrest : NoDigit rest) :
    whole? (ds ++ rest) = some (ds, rest) := by
  rw [whole?, h.1.read_append hrest, Option.bind_some, if_neg]
  simpa using h.2

theorem exists_of_whole? (h : whole? t = some (ds, rest)) :
    IsWhole ds ∧ NoDigit rest ∧ t = ds ++ rest := by
  obtain ⟨part, hpart, h⟩ := Option.bind_eq_some_iff.1 h
  obtain ⟨hzero, h⟩ := Option.ite_none_left_eq_some.1 h
  cases h
  obtain ⟨hds, hrest, rfl⟩ := exists_of_digits? hpart
  exact ⟨⟨hds, by simpa using hzero⟩, hrest, rfl⟩

theorem SpellsFraction.read_append {fraction : Option Text} (h : SpellsFraction fraction s)
    (hdigit : NoDigit rest) (hpoint : rest.head? ≠ some '.') :
    fraction? (s ++ rest) = some (fraction, rest) := by
  cases h with
  | absent =>
    rw [List.nil_append]
    unfold fraction?
    split
    case h_1 => exact absurd rfl hpoint
    case h_2 => rfl
  | point hds => rw [List.cons_append, fraction?, hds.read_append hdigit, Option.map_some]

theorem exists_of_fraction? {fraction : Option Text} (h : fraction? t = some (fraction, rest))
    (ht : NoDigit t) : ∃ s, SpellsFraction fraction s ∧ NoDigit rest ∧ t = s ++ rest := by
  unfold fraction? at h
  split at h
  case h_1 more =>
    obtain ⟨⟨ds, rest⟩, hread, ⟨⟩⟩ := Option.map_eq_some_iff.1 h
    obtain ⟨hds, hrest, rfl⟩ := exists_of_digits? hread
    exact ⟨'.' :: ds, .point hds, hrest, rfl⟩
  case h_2 =>
    cases h
    exact ⟨[], .absent, ht, rfl⟩

theorem SpellsSign.read_append {negative : Bool} (h : SpellsSign negative s) (hds : IsDigits ds)
    (rest : Text) : exponentSign (s ++ (ds ++ rest)) = (negative, ds ++ rest) := by
  cases h with
  | absent =>
    rw [List.nil_append]
    unfold exponentSign
    split
    case h_1 more hmore => exact absurd (by rw [hmore]; rfl) (hds.ne_of_head? (c := '+') rfl rest)
    case h_2 more hmore => exact absurd (by rw [hmore]; rfl) (hds.ne_of_head? (c := '-') rfl rest)
    case h_3 => rfl
  | plus => rfl
  | minus => rfl

theorem exists_of_exponentSign (t : Text) :
    ∃ s, SpellsSign (exponentSign t).1 s ∧ t = s ++ (exponentSign t).2 := by
  unfold exponentSign
  split
  case h_1 => exact ⟨_, .plus, rfl⟩
  case h_2 => exact ⟨_, .minus, rfl⟩
  case h_3 => exact ⟨_, .absent, rfl⟩

theorem SpellsExponent.read_append {exponent : Option (Bool × Text)} (h : SpellsExponent exponent s)
    (hrest : Ends rest) : exponent? (s ++ rest) = some (exponent, rest) := by
  cases h with
  | absent =>
    cases rest with
    | nil => rfl
    | cons c rest =>
      rw [List.nil_append, exponent?, if_neg]
      simpa using hrest.noMark c rfl
  | mark he hsign hds =>
    rw [List.cons_append, exponent?, if_pos (by simpa using he), List.append_assoc,
      hsign.read_append hds]
    exact congrArg (Option.map _) (hds.read_append hrest.noDigit)

theorem exists_of_exponent? {exponent : Option (Bool × Text)}
    (h : exponent? t = some (exponent, rest)) (ht : NoDigit t) :
    ∃ s, SpellsExponent exponent s ∧ NoDigit rest ∧ t = s ++ rest := by
  unfold exponent? at h
  split at h
  case h_1 =>
    cases h
    exact ⟨[], .absent, ht, rfl⟩
  case h_2 c more =>
    split at h
    case isTrue he =>
      obtain ⟨s, hsign, hmore⟩ := exists_of_exponentSign more
      obtain ⟨⟨ds, rest⟩, hread, ⟨⟩⟩ := Option.map_eq_some_iff.1 h
      obtain ⟨hds, hrest, hsigned⟩ := exists_of_digits? hread
      refine ⟨c :: (s ++ ds), .mark (by simpa using he) hsign hds, hrest, ?_⟩
      rw [hmore, hsigned]
      simp
    case isFalse =>
      cases h
      exact ⟨[], .absent, ht, rfl⟩

/-! ## Literals -/

/-- Behind a spelled exponent, or none, a number neither has more digits nor a fraction. -/
theorem SpellsExponent.ends {exponent : Option (Bool × Text)} (h : SpellsExponent exponent s)
    (hrest : Ends rest) : NoDigit (s ++ rest) ∧ (s ++ rest).head? ≠ some '.' := by
  cases h with
  | absent => exact ⟨hrest.noDigit, hrest.noPoint⟩
  | mark he =>
    constructor
    · rintro _ ⟨⟩
      rcases he with rfl | rfl <;> rfl
    · rintro ⟨⟩
      rcases he with he | he <;> cases he

theorem SpellsFraction.noDigit {fraction : Option Text} (h : SpellsFraction fraction s)
    (hrest : NoDigit rest) : NoDigit (s ++ rest) := by
  cases h with
  | absent => exact hrest
  | point =>
    rintro _ ⟨⟩
    rfl

theorem SpellsMinus.read_append {negative : Bool} (h : SpellsMinus negative s) (hds : IsDigits ds)
    (rest : Text) : minus (s ++ (ds ++ rest)) = (negative, ds ++ rest) := by
  cases h with
  | absent =>
    rw [List.nil_append]
    unfold minus
    split
    case h_1 more hmore => exact absurd (by rw [hmore]; rfl) (hds.ne_of_head? (c := '-') rfl rest)
    case h_2 => rfl
  | present => rfl

theorem exists_of_minus (t : Text) : ∃ s, SpellsMinus (minus t).1 s ∧ t = s ++ (minus t).2 := by
  unfold minus
  split
  case h_1 => exact ⟨_, .present, rfl⟩
  case h_2 => exact ⟨_, .absent, rfl⟩

theorem Spells.read_append {x : Numeral} (h : Spells x s) (hrest : Ends rest) :
    scan? (s ++ rest) = some (x, rest) := by
  obtain ⟨hsign, hwhole, hf, he⟩ := h
  obtain ⟨hdigit, hpoint⟩ := he.ends hrest
  simp only [scan?, List.append_assoc, hsign.read_append hwhole.1,
    hwhole.read_append (hf.noDigit hdigit), hf.read_append hdigit hpoint, he.read_append hrest,
    Option.bind_eq_bind, Option.bind_some]

/-- A literal begins with the sign or with a digit. -/
theorem Spells.exists_cons {x : Numeral} (h : Spells x s) :
    ∃ c more, s = c :: more ∧ (c = '-' ∨ c.isDigit = true) := by
  obtain ⟨hsign, ⟨⟨hne, hdigits⟩, -⟩, -, -⟩ := h
  obtain ⟨d, ds, hds⟩ := List.exists_cons_of_ne_nil hne
  have hd : d.isDigit = true := hdigits d (hds ▸ List.mem_cons_self)
  generalize x.negative = negative at hsign
  cases hsign with
  | absent => exact ⟨d, _, by rw [hds]; rfl, .inr hd⟩
  | present => exact ⟨'-', _, rfl, .inl rfl⟩

theorem exists_of_scan? {x : Numeral} (h : scan? t = some (x, rest)) :
    ∃ s, Spells x s ∧ NoDigit rest ∧ t = s ++ rest := by
  simp only [scan?, Option.bind_eq_bind, Option.bind_eq_some_iff] at h
  obtain ⟨⟨whole, t₁⟩, h₁, ⟨fraction, t₂⟩, h₂, ⟨exponent, t₃⟩, h₃, ⟨⟩⟩ := h
  obtain ⟨sign, hsign, ht⟩ := exists_of_minus t
  obtain ⟨hwhole, ht₁, hminus⟩ := exists_of_whole? h₁
  obtain ⟨f, hf, ht₂, rfl⟩ := exists_of_fraction? h₂ ht₁
  obtain ⟨e, he, hrest, rfl⟩ := exists_of_exponent? h₃ ht₂
  refine ⟨sign ++ (whole ++ (f ++ e)), .mk hsign hwhole hf he, hrest, ?_⟩
  rw [ht, hminus]
  simp

end DocComment.Json.Numeral
