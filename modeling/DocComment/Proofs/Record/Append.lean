import DocComment.Proofs.Document.Append
import Mathlib.Data.List.Basic
import Mathlib.Data.List.Induction

/-!
# Comments read in two parts

A comment can be cut before any of its tag starts and read part by part.  The record of the whole is
put together from the records of the parts by `Record.followedBy`, which keeps the description of
the first part and follows the policy of each field otherwise: lists go on, members go on with the
names that are new, parameters are described anew where they are, flags are joined by "or", and a
field that the last occurrence decides is the second part's as soon as its tag occurs there, even
when that occurrence says nothing.  `Reading.append` adds the complaints, and
`Document.parse_append` is the law.

The lemmas before it take the fields one by one; each is about sections only, so that neither the
preamble nor the indices of lines matter for them.
-/

namespace DocComment

/-! ## Fields of joined sections -/

namespace Section

@[simp] theorem occurs_append (tag : Tag) (before after : List Section) :
    occurs tag (before ++ after) = (occurs tag before || occurs tag after) :=
  List.any_append

theorem texts_append (tag : Tag) (before after : List Section) :
    texts tag (before ++ after) = texts tag before ++ texts tag after :=
  entries_append tag _ before after

/-- A finisher that drops nothing makes no entry only where the tag does not occur. -/
theorem entries_eq_nil_iff {α : Type} {tag : Tag} {finish : Text → Section → α}
    {sections : List Section} :
    entries tag (fun argument s ↦ some (finish argument s)) sections = [] ↔
      occurs tag sections = false := by
  induction sections with
  | nil => simp [entries, occurs]
  | cons s rest ih =>
    rw [entries, occurs] at ih ⊢
    rw [List.any_cons, Bool.or_eq_false_iff, ← ih]
    cases h : s.argument? tag with
    | none => simp [h]
    | some argument => simp [h]

/-- The last entry is that of the second stretch as soon as the tag occurs there. -/
theorem getLast?_entries_append {α : Type} (tag : Tag) (finish : Text → Section → α)
    (before after : List Section) :
    (entries tag (fun argument s ↦ some (finish argument s)) (before ++ after)).getLast? =
      if occurs tag after then
        (entries tag (fun argument s ↦ some (finish argument s)) after).getLast?
      else (entries tag (fun argument s ↦ some (finish argument s)) before).getLast? := by
  rw [entries_append]
  split
  case isTrue h =>
    refine List.getLast?_append_of_ne_nil _ fun hnil ↦ ?_
    rw [entries_eq_nil_iff.1 hnil] at h
    exact Bool.noConfusion h
  case isFalse h => rw [entries_eq_nil_iff.2 (Bool.eq_false_iff.2 h), List.append_nil]

theorem lastText_append (tag : Tag) (before after : List Section) :
    lastText tag (before ++ after) =
      if occurs tag after then lastText tag after else lastText tag before := by
  rw [lastText, getLast?_entries_append tag (fun argument s ↦ Prose.reflow argument s.body)]
  split <;> rfl

end Section

open Section (occurs)

theorem Deprecation.ofSections_append (before after : List Section) :
    ofSections (before ++ after) =
      if occurs .deprecated after then ofSections after else ofSections before := by
  rw [ofSections, Section.getLast?_entries_append .deprecated
    (fun argument s ↦ Prose.reflow argument s.body)]
  by_cases h : occurs .deprecated after
  · rw [if_pos h, if_pos h]
    rfl
  · rw [if_neg h, if_neg h]
    rfl

theorem License.ofSections_append (before after : List Section) :
    ofSections (before ++ after) =
      if occurs .license after then ofSections after else ofSections before := by
  rw [ofSections, Section.getLast?_entries_append .license
    (fun argument s ↦ ofParts? argument.nonBlank? (Prose.reflow [] s.body))]
  split <;> rfl

/-! ## Members -/

namespace Identifier

/-- Names added to a list are those that are new to it, as they would be added to no list. -/
theorem foldl_addNew (names more : List Text) :
    more.foldl addNew names =
      names ++ (more.foldl addNew []).filter fun name ↦ !names.contains name := by
  induction more using List.reverseRecOn with
  | nil => simp
  | append_singleton more name ih =>
    rw [List.foldl_concat, List.foldl_concat, ih]
    generalize more.foldl addNew [] = added
    by_cases hin : name ∈ added
    · have hjoined : name ∈ names ++ added.filter fun name ↦ !names.contains name := by
        by_cases hnames : name ∈ names <;> simp [hin, hnames]
      rw [addNew, addNew, if_pos hjoined, if_pos hin]
    · by_cases hnames : name ∈ names
      · simp [addNew, hin, hnames]
      · simp [addNew, hin, hnames]

theorem membersOf_append (before after : List Section) :
    membersOf (before ++ after) =
      membersOf before ++
        (membersOf after).filter fun name ↦ !(membersOf before).contains name := by
  rw [membersOf, Section.entries_append, List.foldl_append, foldl_addNew]
  rfl

end Identifier

/-! ## Parameters -/

namespace Parameter

/-- The description that some parameters give for a name. -/
def describe? (ps : List Parameter) (name : Text) : Option Text :=
  (ps.find? (·.name = name)).map description

/-- Parameters described anew by further ones, which follow where their names are new. -/
def redescribe (ps qs : List Parameter) : List Parameter :=
  ps.map (fun p ↦ { p with description := (describe? qs p.name).getD p.description }) ++
    qs.filter fun q ↦ (describe? ps q.name).isNone

theorem describe?_eq_none_iff {ps : List Parameter} {name : Text} :
    describe? ps name = none ↔ ∀ p ∈ ps, p.name ≠ name := by
  simp [describe?]

theorem any_name_iff {ps : List Parameter} {name : Text} :
    ps.any (·.name = name) = true ↔ (describe? ps name).isSome = true := by
  rw [← Option.ne_none_iff_isSome, Ne, describe?_eq_none_iff]
  simp

/-- A declaration that meets its own name keeps the names that were there. -/
theorem name_replaced (p q : Parameter) : (if q.name = p.name then p else q).name = q.name := by
  split
  case isTrue h => exact h.symm
  case isFalse => rfl

/-- Only the declared name gets another description. -/
theorem describe?_declare (ps : List Parameter) (p : Parameter) (name : Text) :
    describe? (declare ps p) name =
      if p.name = name then some p.description else describe? ps name := by
  rw [declare]
  split
  case isTrue h =>
    have hfind : (ps.map fun q ↦ if q.name = p.name then p else q).find? (·.name = name) =
        (ps.find? (·.name = name)).map fun q ↦ if q.name = p.name then p else q := by
      rw [List.find?_map]
      congr 2
      funext q
      rw [Function.comp_apply, name_replaced]
    rw [describe?, hfind, Option.map_map]
    by_cases hname : p.name = name
    · subst hname
      obtain ⟨q, hq⟩ := Option.isSome_iff_exists.1 (any_name_iff.1 h)
      obtain ⟨r, hr, -⟩ := Option.map_eq_some_iff.1 hq
      have hrname : r.name = p.name := by simpa using List.find?_some hr
      simp [hr, hrname]
    · rw [if_neg hname]
      refine Option.map_congr fun q hq ↦ ?_
      have hqname : q.name = name := by simpa using List.find?_some hq
      simp [hqname, Ne.symm hname]
  case isFalse h =>
    have hnone : describe? ps p.name = none := by
      rwa [any_name_iff, Option.not_isSome_iff_eq_none] at h
    rw [describe?, List.find?_append, Option.map_or, ← describe?]
    by_cases hname : p.name = name
    · subst hname
      simp [hnone]
    · simp [hname]

/-- Parameters described anew lack the names that both lists lack. -/
theorem describe?_redescribe_eq_none_iff {ps qs : List Parameter} {name : Text} :
    describe? (redescribe ps qs) name = none ↔
      describe? ps name = none ∧ describe? qs name = none := by
  simp only [describe?_eq_none_iff, redescribe, List.mem_append, List.mem_map, List.mem_filter]
  constructor
  · intro h
    have hps : ∀ p ∈ ps, p.name ≠ name := by
      intro p hp
      exact h ⟨p.name, (describe? qs p.name).getD p.description⟩ (.inl ⟨p, hp, rfl⟩)
    refine ⟨hps, fun q hq hname ↦ h q (.inr ⟨hq, ?_⟩) hname⟩
    rw [Option.isNone_iff_eq_none, describe?_eq_none_iff, hname]
    exact hps
  · rintro ⟨hps, hqs⟩ p (⟨p, hp, rfl⟩ | ⟨hp, -⟩)
    · exact hps p hp
    · exact hqs p hp

/-- A declaration replaces nothing among parameters with other names. -/
theorem map_replaced_eq_self {ps : List Parameter} {p : Parameter}
    (h : describe? ps p.name = none) : (ps.map fun q ↦ if q.name = p.name then p else q) = ps := by
  rw [describe?_eq_none_iff] at h
  exact (List.map_congr_left fun q hq ↦ if_neg (h q hq)).trans (List.map_id ps)

/-- Replacing a parameter among those that are described anew, or among the new descriptions. -/
theorem map_redescribed (ps qs : List Parameter) (q : Parameter) :
    ps.map (fun p ↦
        { p with description := (describe? (declare qs q) p.name).getD p.description }) =
      (ps.map fun p ↦ { p with description := (describe? qs p.name).getD p.description }).map
        fun p ↦ if p.name = q.name then q else p := by
  rw [List.map_map]
  refine List.map_congr_left fun p _ ↦ ?_
  rw [describe?_declare, Function.comp_apply]
  by_cases h : p.name = q.name
  · rw [if_pos h.symm, if_pos h, Option.getD_some, h]
  · rw [if_neg (Ne.symm h), if_neg h]

/-- A further declaration is described anew like the others. -/
theorem redescribe_declare (ps qs : List Parameter) (q : Parameter) :
    redescribe ps (declare qs q) = declare (redescribe ps qs) q := by
  have hany : (redescribe ps qs).any (·.name = q.name) = true ↔
      ¬(describe? ps q.name = none ∧ describe? qs q.name = none) := by
    rw [any_name_iff, ← describe?_redescribe_eq_none_iff, ← Option.ne_none_iff_isSome]
  rw [redescribe, map_redescribed, declare.eq_1 (redescribe ps qs)]
  by_cases hqs : describe? qs q.name = none
  · have hdeclare : declare qs q = qs ++ [q] := by
      rw [declare, if_neg]
      rw [any_name_iff, hqs]
      exact Bool.false_ne_true
    rw [hdeclare, List.filter_append]
    by_cases hps : describe? ps q.name = none
    · rw [if_neg fun h ↦ hany.1 h ⟨hps, hqs⟩, map_replaced_eq_self]
      · simp [redescribe, hps]
      · rw [describe?_eq_none_iff] at hps ⊢
        intro p hp
        rcases List.mem_map.1 hp with ⟨p', hp', rfl⟩
        exact hps p' hp'
    · have hnew : describe? (qs.filter fun q ↦ (describe? ps q.name).isNone) q.name = none := by
        rw [describe?_eq_none_iff] at hqs ⊢
        exact fun p hp ↦ hqs p (List.mem_of_mem_filter hp)
      rw [if_pos (hany.2 fun h ↦ hps h.1), redescribe, List.map_append, map_replaced_eq_self hnew]
      simp [hps]
  · have hdeclare : declare qs q = qs.map fun p ↦ if p.name = q.name then q else p := by
      rw [declare, if_pos]
      rwa [any_name_iff, ← Option.ne_none_iff_isSome]
    rw [if_pos (hany.2 fun h ↦ hqs h.2), hdeclare, redescribe, List.map_append, List.filter_map]
    congr 2
    refine List.filter_congr fun p _ ↦ ?_
    rw [Function.comp_apply, name_replaced]

/-- Declared after others, parameters describe these anew. -/
theorem foldl_declare (ps more : List Parameter) :
    more.foldl declare ps = redescribe ps (more.foldl declare []) := by
  induction more using List.reverseRecOn with
  | nil => simp [redescribe, describe?]
  | append_singleton more q ih =>
    rw [List.foldl_concat, List.foldl_concat, ih, redescribe_declare]

theorem ofSections_append (before after : List Section) :
    ofSections (before ++ after) = redescribe (ofSections before) (ofSections after) := by
  rw [ofSections, Section.entries_append, List.foldl_append, foldl_declare]
  rfl

end Parameter

/-! ## Records and readings -/

/-- What a comment says that goes on with further sections.  Its own sections say `r`, the further
ones say `s`, and `occurs` tells which tags these have. -/
def Record.followedBy (r s : Record) (occurs : Tag → Bool) : Record where
  description := r.description
  authors := r.authors ++ s.authors
  copyright := r.copyright ++ s.copyright
  deprecated := if occurs .deprecated then s.deprecated else r.deprecated
  examples := r.examples ++ s.examples
  isGlobal := r.isGlobal || s.isGlobal
  isIgnored := r.isIgnored || s.isIgnored
  license := if occurs .license then s.license else r.license
  memberOf := r.memberOf ++ s.memberOf.filter fun name ↦ !r.memberOf.contains name
  namespaces := r.namespaces ++ s.namespaces
  parameters :=
    r.parameters.map (fun p ↦
        { p with description := (s.parameter? p.name).getD p.description }) ++
      s.parameters.filter fun p ↦ (r.parameter? p.name).isNone
  isPrivate := r.isPrivate || s.isPrivate
  returns := if occurs .returns then s.returns else r.returns
  since := if occurs .since then s.since else r.since
  throws := r.throws ++ s.throws
  todo := r.todo ++ s.todo
  version := if occurs .version then s.version else r.version

/-- A complaint about a line that so many lines come before. -/
def Malformed.below (e : Malformed) (lines : Nat) : Malformed := { e with line := e.line + lines }

/-- The reading of so many lines and of further ones, from the readings of both: the first complaint
counts, and one about the further lines is moved down. -/
def Reading.append (lines : Nat) (occurs : Tag → Bool) :
    Except Malformed Record → Except Malformed Record → Except Malformed Record
  | .error e, _ => .error e
  | .ok _, .error e => .error (e.below lines)
  | .ok r, .ok s => .ok (r.followedBy s occurs)

namespace Document

variable (before : List Text) {after : List Text}

theorem record_append (h : ∀ line ∈ after.head?, Line.isTagStart line = true) :
    (ofLines (before ++ after)).record =
      (ofLines before).record.followedBy (ofLines after).record (Tag.occursIn after) := by
  simp only [record, Record.followedBy, ofLines_append before h, ← Section.occurs_ofLines]
  congr 1
  · exact Section.entries_append ..
  · exact Section.texts_append ..
  · exact Deprecation.ofSections_append ..
  · exact Section.entries_append ..
  · exact Section.occurs_append ..
  · exact Section.occurs_append ..
  · exact License.ofSections_append ..
  · exact Identifier.membersOf_append ..
  · exact Section.entries_append ..
  · exact Parameter.ofSections_append ..
  · exact Section.occurs_append ..
  · exact Section.lastText_append ..
  · exact Section.lastText_append ..
  · exact Section.entries_append ..
  · exact Section.texts_append ..
  · exact Section.lastText_append ..

/-- The first malformed section is that of the first stretch, if it has one. -/
theorem malformed?_append (h : ∀ line ∈ after.head?, Line.isTagStart line = true) :
    (ofLines (before ++ after)).malformed? =
      (ofLines before).malformed?.or
        ((ofLines after).malformed?.map (·.below before.length)) := by
  rw [malformed?, numbered_append before h, List.find?_append, Option.map_or, List.find?_map,
    Option.map_map, malformed?, malformed?, Option.map_map]
  rfl

theorem parse_append (h : ∀ line ∈ after.head?, Line.isTagStart line = true) :
    (ofLines (before ++ after)).parse =
      Reading.append before.length (Tag.occursIn after) (ofLines before).parse
        (ofLines after).parse := by
  rw [parse, malformed?_append before h, record_append before h, parse, parse]
  cases (ofLines before).malformed? with
  | some e => rfl
  | none =>
    cases (ofLines after).malformed? with
    | some e => rfl
    | none => rfl

end Document

/-- Lines and further ones, which begin with a tag start if there are any, are read like the
comments that they are by themselves. -/
theorem parse_of_split_append {before after : List Text} {a b c : Text}
    (ha : Line.split a = before) (hb : Line.split b = after)
    (hc : Line.split c = before ++ after)
    (hcut : ∀ line ∈ after.head?, Line.isTagStart line = true) :
    parse c = Reading.append before.length (Tag.occursIn after) (parse a) (parse b) := by
  rw [parse, parse, parse, ha, hb, hc]
  exact Document.parse_append before hcut

/-- The second part describes `x` anew and takes away what the first says about `since`. -/
theorem parse_of_split_append_since :
    parse "Sum.\n@param x old\n@since 1\n@since\n@param y why\n@param x new".toList =
        Reading.append 3
          (Tag.occursIn ["@since".toList, "@param y why".toList, "@param x new".toList])
          (parse "Sum.\n@param x old\n@since 1".toList)
          (parse "@since\n@param y why\n@param x new".toList) ∧
      parse "Sum.\n@param x old\n@since 1\n@since\n@param y why\n@param x new".toList =
        .ok { description := some "Sum.".toList,
              parameters := [⟨"x".toList, "new".toList⟩, ⟨"y".toList, "why".toList⟩] } := by
  have ha : Line.split "Sum.\n@param x old\n@since 1".toList =
      ["Sum.".toList, "@param x old".toList, "@since 1".toList] := by decide
  exact ⟨parse_of_split_append ha (by decide) (by decide) (by decide), by decide⟩

end DocComment
