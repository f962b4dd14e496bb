import DocComment.Proofs.Prose.Shape
import DocComment.Record.Parse
import Mathlib.Data.List.Nodup

/-!
# Well-formed records

Whatever a comment looks like, the record that is read off it is well-formed
(`wellFormed_of_parse`): a text that is present says something, texts from a single line stay
on one line, names are names, and no name of a list of names comes twice.

All of this follows from the lines being unbroken and the arguments being cut from trimmed lines;
hardly any of it is checked.  Every entry is made from one section, so each kind of entry has a
lemma of its own about an unbroken argument and an unbroken body, and `Section.forall_mem_entries`
carries it over to the sections of a document.
-/

namespace DocComment

open Unicode Prose
open Text (IsLabel IsProse Unbroken)

/-! ## Parts of a record -/

structure Author.WellFormed (a : Author) : Prop where
  name : ∀ t ∈ a.name, IsLabel t
  email : ∀ t ∈ a.email, IsLabel t

structure Example.WellFormed (e : Example) : Prop where
  caption : ∀ t ∈ e.caption, IsLabel t
  code : e.code.IsCode

structure License.WellFormed (l : License) : Prop where
  name : ∀ t ∈ l.name, IsLabel t
  text : ∀ t ∈ l.text, IsProse t
  nonempty : l.name.isSome = true ∨ l.text.isSome = true

/-- A name that a member or a namespace has. -/
structure Identifier.IsName (t : Text) : Prop where
  isLabel : t.IsLabel
  isValid : isValid t = true

structure Namespace.WellFormed (n : Namespace) : Prop where
  name : Identifier.IsName n.name
  description : ∀ t ∈ n.description, IsProse t

/-- The name of a parameter is a single word; its description may be empty. -/
structure Parameter.WellFormed (p : Parameter) : Prop where
  nonempty : p.name ≠ []
  noSpace : ∀ c ∈ p.name, isWhiteSpace c = false
  unbroken : p.name.Unbroken
  trimmed : p.description.IsTrimmed
  onlyFeeds : p.description.OnlyFeeds

structure Throw.WellFormed (e : Throw) : Prop where
  type : ∀ t ∈ e.type, IsLabel t
  description : ∀ t ∈ e.description, IsProse t

/-- What holds of every record that is read off a comment. -/
structure Record.WellFormed (r : Record) : Prop where
  description : ∀ t ∈ r.description, IsProse t
  authors : ∀ a ∈ r.authors, a.WellFormed
  copyright : ∀ t ∈ r.copyright, IsProse t
  deprecated : ∀ t ∈ r.deprecated.reason?, IsProse t
  examples : ∀ e ∈ r.examples, e.WellFormed
  license : ∀ l ∈ r.license, l.WellFormed
  members : ∀ t ∈ r.memberOf, Identifier.IsName t
  nodup_members : r.memberOf.Nodup
  namespaces : ∀ n ∈ r.namespaces, n.WellFormed
  parameters : ∀ p ∈ r.parameters, p.WellFormed
  nodup_parameters : (r.parameters.map Parameter.name).Nodup
  returns : ∀ t ∈ r.returns, IsProse t
  since : ∀ t ∈ r.since, IsProse t
  throws : ∀ e ∈ r.throws, e.WellFormed
  todo : ∀ t ∈ r.todo, IsProse t
  version : ∀ t ∈ r.version, IsProse t

/-! ## Entries -/

namespace Section

variable {α : Type} {Q : Section → Prop} {P : α → Prop} {finish : Text → Section → Option α}
variable {sections : List Section} {tag : Tag}

/-- What a finisher makes of every section of a kind holds of the entries. -/
theorem forall_mem_entries (hsections : ∀ s ∈ sections, Q s)
    (hfinish : ∀ s a x, Q s → s.argument? tag = some a → finish a s = some x → P x) :
    ∀ x ∈ entries tag finish sections, P x := by
  intro x hx
  obtain ⟨s, hs, hentry⟩ := List.mem_filterMap.1 hx
  obtain ⟨a, ha, hfinish'⟩ := Option.bind_eq_some_iff.1 hentry
  exact hfinish s a x (hsections s hs) ha hfinish'

/-- It also holds of the last occurrence, if that one is not empty. -/
theorem of_getLast?_entries (hsections : ∀ s ∈ sections, Q s)
    (hfinish : ∀ s a x, Q s → s.argument? tag = some a → finish a s = some x → P x) {x : α}
    (h : (entries tag (fun a s ↦ some (finish a s)) sections).getLast? = some (some x)) : P x := by
  have hentries : ∀ y ∈ entries tag (fun a s ↦ some (finish a s)) sections, ∀ x ∈ y, P x := by
    refine forall_mem_entries hsections ?_
    rintro s a y hs ha ⟨⟩ x hx
    exact hfinish s a x hs ha hx
  exact hentries (some x) (List.mem_of_getLast? h) x rfl

end Section

/-! ## What one section says -/

section Finishers

variable {a : Text} {body : List Text}

theorem Author.wellFormed_ofArgument (ha : a.Unbroken) : (ofArgument a).WellFormed := by
  rw [ofArgument]
  split
  case h_1 name email hbracketed =>
    obtain ⟨opened, hopened, hclosed⟩ := Option.bind_eq_some_iff.1 hbracketed
    obtain ⟨closed, hcut, heq⟩ := Option.map_eq_some_iff.1 hclosed
    obtain ⟨rfl, rfl⟩ := Prod.mk.inj heq
    obtain ⟨hname, hinside⟩ := Text.splitFirst?_subset hopened
    obtain ⟨hemail, -⟩ := Text.splitFirst?_subset hcut
    constructor
    · intro t ht
      exact (ha.mono hname).isLabel ht
    · intro t ht
      exact (ha.mono (List.Subset.trans hemail hinside)).isLabel ht
  case h_2 =>
    constructor
    · intro t ht
      exact ha.isLabel ht
    · exact nofun

theorem License.wellFormed_of_ofParts? {name text : Option Text} {l : License}
    (hname : ∀ t ∈ name, IsLabel t) (htext : ∀ t ∈ text, IsProse t)
    (h : ofParts? name text = some l) : l.WellFormed := by
  rw [ofParts?] at h
  split at h
  case isTrue => cases h
  case isFalse hsome =>
    cases h
    refine ⟨hname, htext, ?_⟩
    simp only [Bool.and_eq_true, not_and_or, Bool.not_eq_true, Option.isNone_eq_false_iff] at hsome
    exact hsome

theorem Identifier.isName_of_ofArgument? {t : Text} (ha : a.Unbroken) (h : ofArgument? a = some t) :
    IsName t := by
  rw [ofArgument?] at h
  split at h
  case isTrue hvalid =>
    cases h
    refine ⟨⟨?_, Text.isTrimmed_trim a, ha.mono (Text.trim_subset a)⟩, hvalid⟩
    intro hnil
    rw [hnil] at hvalid
    cases hvalid
  case isFalse => cases h

/-- The argument of a parameter is not blank, so that a name comes before its first white space. -/
theorem Parameter.wellFormed_ofArgument (ha : a.Unbroken) (hblank : a.isBlank = false)
    (hbody : ∀ line ∈ body, line.Unbroken) : (ofArgument a body).WellFormed := by
  have hrest : a.trimStart.Unbroken := ha.mono (Text.trimStart_subset a)
  have hdescription : ∀ {seed}, Unbroken seed → Text.IsTrimmed ((reflow seed body).getD []) ∧
      Text.OnlyFeeds ((reflow seed body).getD []) := by
    intro seed hseed
    cases hreflow : reflow seed body with
    | none => exact ⟨Text.isTrimmed_nil, Text.onlyFeeds_nil⟩
    | some t =>
      have hprose := isProse_of_reflow hseed hbody hreflow
      exact ⟨hprose.trimmed, hprose.onlyFeeds⟩
  rw [ofArgument]
  cases hcut : a.trimStart.splitFirst? isWhiteSpace with
  | none =>
    obtain ⟨htrimmed, hfeeds⟩ := hdescription Text.unbroken_nil
    refine ⟨?_, Text.splitFirst?_eq_none hcut, hrest, htrimmed, hfeeds⟩
    intro hnil
    rw [Option.getD_none, Text.trimStart_eq_nil_iff, hblank] at hnil
    cases hnil
  | some cut =>
    obtain ⟨hname, c, hspace, happend⟩ := Text.splitFirst?_eq_some hcut
    obtain ⟨hbefore, hafter⟩ := Text.splitFirst?_subset hcut
    obtain ⟨htrimmed, hfeeds⟩ := hdescription (hrest.mono hafter)
    refine ⟨?_, hname, hrest.mono hbefore, htrimmed, hfeeds⟩
    intro (hnil : cut.1 = [])
    -- Then the argument would begin with white space, trimmed as it is.
    have hstart := Text.trimStart_eq_self_iff.1 (Text.trimStart_trimStart a) c
    rw [happend, hnil] at hstart
    rw [hstart rfl] at hspace
    cases hspace

theorem Throw.wellFormed_of_ofArgument? {e : Throw} (ha : a.Unbroken)
    (hbody : ∀ line ∈ body, line.Unbroken) (h : ofArgument? a body = some e) : e.WellFormed := by
  unfold ofArgument? at h
  split at h
  case h_1 inside =>
    obtain ⟨cut, hcut, rfl⟩ := Option.map_eq_some_iff.1 h
    obtain ⟨htype, hrest⟩ := Text.splitFirst?_subset hcut
    have hinside : Unbroken inside := ha.mono (List.subset_cons_self '[' inside)
    constructor
    · intro t ht
      exact (hinside.mono htype).isLabel ht
    · intro t ht
      exact isProse_of_reflow (hinside.mono hrest) hbody ht
  case h_2 =>
    cases h
    constructor
    · exact nofun
    · intro t ht
      exact isProse_of_reflow ha hbody ht

end Finishers

/-! ## Lists of names -/

theorem Identifier.nodup_addNew {names : List Text} (h : names.Nodup) (name : Text) :
    (addNew names name).Nodup := by
  rw [addNew]
  split
  case isTrue => exact h
  case isFalse hnew =>
    rw [← List.concat_eq_append]
    exact List.Nodup.concat hnew h

theorem Identifier.mem_addNew {names : List Text} {name other : Text} :
    other ∈ addNew names name ↔ other ∈ names ∨ other = name := by
  rw [addNew]
  split
  case isTrue hold =>
    constructor
    · exact .inl
    · rintro (h | rfl)
      · exact h
      · exact hold
  case isFalse => rw [List.mem_append, List.mem_singleton]

/-- Names that are added one after the other are there once each. -/
theorem Identifier.nodup_foldl_addNew (names : List Text) : (names.foldl addNew []).Nodup := by
  induction names using List.reverseRecOn with
  | nil => exact List.nodup_nil
  | append_singleton names name ih =>
    rw [List.foldl_concat]
    exact nodup_addNew ih name

theorem Identifier.mem_foldl_addNew {names : List Text} {name : Text} :
    name ∈ names.foldl addNew [] ↔ name ∈ names := by
  induction names using List.reverseRecOn with
  | nil => rfl
  | append_singleton names last ih =>
    rw [List.foldl_concat, mem_addNew, ih, List.mem_append, List.mem_singleton]

/-- Declaring a parameter adds its name to the names of the parameters. -/
theorem Parameter.map_name_declare (ps : List Parameter) (p : Parameter) :
    (declare ps p).map name = Identifier.addNew (ps.map name) p.name := by
  have hany : ps.any (·.name = p.name) = true ↔ p.name ∈ ps.map name := by
    simp only [List.any_eq_true, decide_eq_true_eq, List.mem_map]
  rw [declare, Identifier.addNew]
  split
  case isTrue h =>
    rw [if_pos (hany.1 h), List.map_map]
    refine List.map_congr_left fun q _ ↦ ?_
    rw [Function.comp_apply]
    split
    case isTrue hname => exact hname.symm
    case isFalse => rfl
  case isFalse h =>
    rw [if_neg fun hname ↦ h (hany.2 hname), List.map_append]
    rfl

theorem Parameter.map_name_foldl_declare (ps : List Parameter) :
    (ps.foldl declare []).map name = (ps.map name).foldl Identifier.addNew [] := by
  induction ps using List.reverseRecOn with
  | nil => rfl
  | append_singleton ps p ih =>
    rw [List.foldl_concat, map_name_declare, ih, List.map_append, List.map_singleton,
      List.foldl_concat]

theorem Parameter.mem_foldl_declare {ps : List Parameter} {p : Parameter}
    (h : p ∈ ps.foldl declare []) : p ∈ ps := by
  induction ps using List.reverseRecOn generalizing p with
  | nil => exact h
  | append_singleton ps last ih =>
    rw [List.foldl_concat, declare] at h
    split at h
    case isTrue =>
      obtain ⟨q, hq, rfl⟩ := List.mem_map.1 h
      split
      case isTrue => exact List.mem_concat_self
      case isFalse => exact List.mem_append_left [last] (ih hq)
    case isFalse =>
      rcases List.mem_append.1 h with h | h
      · exact List.mem_append_left [last] (ih h)
      · exact List.mem_append_right ps h

/-! ## Fields -/

section Fields

variable {sections : List Section}

theorem Identifier.nodup_membersOf (sections : List Section) : (membersOf sections).Nodup :=
  nodup_foldl_addNew _

theorem Parameter.nodup_name_ofSections (sections : List Section) :
    ((ofSections sections).map name).Nodup := by
  rw [ofSections, map_name_foldl_declare]
  exact Identifier.nodup_foldl_addNew _

variable (hsections : ∀ s ∈ sections, s.Unbroken)
include hsections

theorem Section.isProse_texts (tag : Tag) : ∀ t ∈ texts tag sections, IsProse t := by
  refine forall_mem_entries hsections ?_
  intro s a t hs ha ht
  exact isProse_of_reflow (hs.argument ha) hs.body ht

theorem Section.isProse_lastText (tag : Tag) : ∀ t ∈ lastText tag sections, IsProse t := by
  intro t ht
  refine of_getLast?_entries hsections (fun s a t hs ha ht ↦ ?_) (Option.join_eq_some_iff.1 ht)
  exact isProse_of_reflow (hs.argument ha) hs.body ht

theorem Deprecation.isProse_ofSections : ∀ t ∈ (ofSections sections).reason?, IsProse t := by
  intro t ht
  rw [ofSections] at ht
  split at ht
  case h_1 => cases ht
  case h_2 => cases ht
  case h_3 text hlast =>
    cases ht
    refine Section.of_getLast?_entries hsections (fun s a t hs ha ht ↦ ?_) hlast
    exact isProse_of_reflow (hs.argument ha) hs.body ht

theorem License.wellFormed_ofSections : ∀ l ∈ ofSections sections, l.WellFormed := by
  intro l hl
  refine Section.of_getLast?_entries hsections (fun s a l hs ha hl ↦ ?_)
    (Option.join_eq_some_iff.1 hl)
  refine wellFormed_of_ofParts? (fun t ht ↦ (hs.argument ha).isLabel ht) (fun t ht ↦ ?_) hl
  exact isProse_of_reflow Text.unbroken_nil hs.body ht

theorem Author.wellFormed_ofSections : ∀ a ∈ ofSections sections, a.WellFormed := by
  refine Section.forall_mem_entries hsections ?_
  rintro s a author hs ha ⟨⟩
  exact wellFormed_ofArgument (hs.argument ha)

theorem Example.wellFormed_ofSections : ∀ e ∈ ofSections sections, e.WellFormed := by
  refine Section.forall_mem_entries hsections ?_
  intro s a e hs ha he
  obtain ⟨code, hcode, rfl⟩ := Option.map_eq_some_iff.1 he
  constructor
  · intro t ht
    exact (hs.argument ha).isLabel ht
  · exact CodeBlock.isCode_of_cut hs.body hcode

theorem Identifier.isName_membersOf : ∀ t ∈ membersOf sections, IsName t := by
  intro t ht
  refine Section.forall_mem_entries hsections (fun s a t hs ha ht ↦ ?_) t (mem_foldl_addNew.1 ht)
  exact isName_of_ofArgument? (hs.argument ha) ht

theorem Namespace.wellFormed_ofSections : ∀ n ∈ ofSections sections, n.WellFormed := by
  refine Section.forall_mem_entries hsections ?_
  intro s a n hs ha hn
  obtain ⟨name, hname, rfl⟩ := Option.map_eq_some_iff.1 hn
  constructor
  · exact Identifier.isName_of_ofArgument? (hs.argument ha) hname
  · intro t ht
    exact isProse_of_reflow Text.unbroken_nil hs.body ht

theorem Parameter.wellFormed_ofSections : ∀ p ∈ ofSections sections, p.WellFormed := by
  intro p hp
  refine Section.forall_mem_entries hsections ?_ p (mem_foldl_declare hp)
  rintro s a p hs ha ⟨⟩
  exact wellFormed_ofArgument (hs.argument ha) (Tag.isBlank_of_argument? rfl ha) hs.body

theorem Throw.wellFormed_ofSections : ∀ e ∈ ofSections sections, e.WellFormed := by
  refine Section.forall_mem_entries hsections ?_
  intro s a e hs ha he
  exact wellFormed_of_ofArgument? (hs.argument ha) hs.body he

end Fields

/-! ## Records -/

/-- The record of unbroken lines is well-formed. -/
theorem Document.wellFormed_record {d : Document} (h : d.Unbroken) : d.record.WellFormed where
  description _ ht := Description.isProse_of_ofPreamble h.preamble ht
  authors := Author.wellFormed_ofSections h.sections
  copyright := Section.isProse_texts h.sections .copyright
  deprecated := Deprecation.isProse_ofSections h.sections
  examples := Example.wellFormed_ofSections h.sections
  license := License.wellFormed_ofSections h.sections
  members := Identifier.isName_membersOf h.sections
  nodup_members := Identifier.nodup_membersOf d.sections
  namespaces := Namespace.wellFormed_ofSections h.sections
  parameters := Parameter.wellFormed_ofSections h.sections
  nodup_parameters := Parameter.nodup_name_ofSections d.sections
  returns := Section.isProse_lastText h.sections .returns
  since := Section.isProse_lastText h.sections .since
  throws := Throw.wellFormed_ofSections h.sections
  todo := Section.isProse_texts h.sections .todo
  version := Section.isProse_lastText h.sections .version

/-- Every record that is read off a comment is well-formed. -/
theorem wellFormed_of_parse {comment : Text} {r : Record} (h : parse comment = .ok r) :
    r.WellFormed := by
  have hrecord : (Document.ofText comment).parse = .ok r := h
  rw [Document.parse] at hrecord
  split at hrecord
  case h_1 => cases hrecord
  case h_2 =>
    cases hrecord
    exact Document.wellFormed_record (Document.unbroken_ofText comment)

/-- A parameter and a member that are named twice, and a break that is no line feed. -/
theorem wellFormed_of_parse_repeated :
    let comment := "Sum.\n@param x old\x0b@memberof A\n@memberof A\n@param  x\n\n new".toList
    let r : Record :=
      { description := some "Sum.".toList, memberOf := ["A".toList],
        parameters := [⟨"x".toList, "new".toList⟩] }
    parse comment = .ok r ∧ r.WellFormed := by
  intro comment r
  have h : parse comment = .ok r := by decide
  exact ⟨h, wellFormed_of_parse h⟩

end DocComment
