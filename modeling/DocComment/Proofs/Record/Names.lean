import DocComment.Proofs.Record.Append
import DocComment.Proofs.Record.WellFormed
import DocComment.Proofs.Tag.Occurrences
import DocComment.Proofs.Text.Words

/-!
# Names of parameters and members

A comment may name a parameter or a member several times.  The record has the name once, where it
came first (`Identifier.ListsFirst`).  A parameter that is declared anew keeps its place and loses
its description, so that the order comes of the first declarations and the descriptions of the last
ones (`Parameter.describe?_foldl_declare`).

What a line declares is said without the cut that reads it (`Parameter.declared`): the name is the
first word of the argument, and what comes behind it begins the description.
-/

namespace DocComment

open Unicode
open Line (continuation)
open Prose (reflow)

/-! ## First places -/

/-- The members of a list of names, each once, in the order of their first places there. -/
structure Identifier.ListsFirst (names listed : List Text) : Prop where
  nodup : listed.Nodup
  mem_iff : ∀ name, name ∈ listed ↔ name ∈ names
  order : listed.Pairwise fun a b ↦ names.idxOf a < names.idxOf b

namespace Identifier

/-- A name that is new comes behind those that are there, and these keep their first places. -/
theorem pairwise_idxOf_foldl_addNew (names : List Text) :
    (names.foldl addNew []).Pairwise fun a b ↦ names.idxOf a < names.idxOf b := by
  induction names using List.reverseRecOn with
  | nil => exact .nil
  | append_singleton names name ih =>
    have hkept : (names.foldl addNew []).Pairwise fun a b ↦
        (names ++ [name]).idxOf a < (names ++ [name]).idxOf b := by
      refine ih.imp_of_mem fun ha hb hlt ↦ ?_
      rwa [List.idxOf_append_of_mem (mem_foldl_addNew.1 ha),
        List.idxOf_append_of_mem (mem_foldl_addNew.1 hb)]
    rw [List.foldl_concat, addNew]
    split
    case isTrue => exact hkept
    case isFalse hnew =>
      refine List.pairwise_append.2 ⟨hkept, List.pairwise_singleton _ name, ?_⟩
      intro a ha b hb
      obtain rfl := List.mem_singleton.1 hb
      have ha : a ∈ names := mem_foldl_addNew.1 ha
      have hb : b ∉ names := fun hmem ↦ hnew (mem_foldl_addNew.2 hmem)
      rw [List.idxOf_append_of_mem ha, List.idxOf_append_of_notMem hb]
      exact Nat.lt_add_right _ (List.idxOf_lt_length_of_mem ha)

theorem listsFirst_foldl_addNew (names : List Text) : ListsFirst names (names.foldl addNew []) where
  nodup := nodup_foldl_addNew names
  mem_iff _ := mem_foldl_addNew
  order := pairwise_idxOf_foldl_addNew names

/-- The names that the lines give for members: of what stands behind the tag, what is a name. -/
theorem membersOf_ofLines (lines : List Text) :
    membersOf (Document.ofLines lines).sections =
      (((Tag.memberOf.occurrences lines).map (·.argument.trim)).filter isValid).foldl
        addNew [] := by
  have hnames : ∀ os : List Tag.Occurrence, (os.filterMap fun o ↦ ofArgument? o.argument) =
      (os.map (·.argument.trim)).filter isValid := by
    intro os
    rw [← List.filterMap_eq_filter, List.filterMap_map]
    refine List.filterMap_congr fun o _ ↦ ?_
    rw [ofArgument?, Function.comp_apply, Option.guard]
  rw [membersOf, Section.entries_ofLines, hnames]

end Identifier

/-! ## Declarations -/

/-- White space in front of a seed is no part of the text. -/
theorem Prose.reflow_append_of_isBlank {w : Text} (hw : w.isBlank = true) (seed : Text)
    (lines : List Text) : reflow (w ++ seed) lines = reflow seed lines := by
  rw [reflow, seeded, Text.trim_append_of_isBlank hw, ← seeded, reflow]

namespace Parameter

/-- The parameters that some lines declare, in line order.  The name is the first word behind the
tag; what stands behind it begins the description, and the lines below go on with it. -/
def declared (lines : List Text) : List Parameter :=
  (Tag.param.occurrences lines).map fun o ↦
    let rest := o.argument.trimStart
    ⟨rest.firstWord,
      (reflow (rest.dropWhile (!isWhiteSpace ·)) (continuation lines o.line)).getD []⟩

theorem ofArgument_eq (argument : Text) (body : List Text) :
    ofArgument argument body =
      ⟨argument.trimStart.firstWord,
        (reflow (argument.trimStart.dropWhile (!isWhiteSpace ·)) body).getD []⟩ := by
  rw [ofArgument]
  generalize argument.trimStart = rest
  cases hcut : rest.splitFirst? isWhiteSpace with
  | none =>
    have hword : ∀ c ∈ rest, (!isWhiteSpace c) = true := by
      simpa using Text.splitFirst?_eq_none hcut
    rw [Text.firstWord, List.takeWhile_eq_self_iff.2 hword, List.dropWhile_eq_nil_iff.2 hword]
    rfl
  | some cut =>
    obtain ⟨before, after⟩ := cut
    obtain ⟨hbefore, c, hspace, rfl⟩ := Text.splitFirst?_eq_some hcut
    have hword : ∀ c ∈ before, (!isWhiteSpace c) = true := by
      simpa using hbefore
    have hblank : Text.isBlank [c] = true := by simp [Text.isBlank, hspace]
    have hseed : reflow (c :: after) body = reflow after body :=
      Prose.reflow_append_of_isBlank hblank after body
    rw [Text.firstWord, List.takeWhile_append_of_pos hword, List.dropWhile_append_of_pos hword,
      List.takeWhile_cons_of_neg (by simp [hspace]), List.dropWhile_cons_of_neg (by simp [hspace]),
      hseed, List.append_nil]
    rfl

theorem ofSections_ofLines (lines : List Text) :
    ofSections (Document.ofLines lines).sections = (declared lines).foldl declare [] := by
  have hdeclared : ((Tag.param.occurrences lines).filterMap fun o ↦
      some (ofArgument o.argument (o.sectionIn lines).body)) = declared lines := by
    rw [declared, ← List.filterMap_eq_map]
    refine List.filterMap_congr fun o _ ↦ ?_
    rw [ofArgument_eq]
    rfl
  rw [ofSections, Section.entries_ofLines, hdeclared]

/-- The last declaration of a name describes it. -/
theorem describe?_foldl_declare (ps : List Parameter) (name : Text) :
    describe? (ps.foldl declare []) name =
      (ps.findRev? (·.name = name)).map Parameter.description := by
  induction ps using List.reverseRecOn with
  | nil => rfl
  | append_singleton ps p ih =>
    rw [List.foldl_concat, describe?_declare, ih, List.findRev?_eq_find?_reverse,
      List.findRev?_eq_find?_reverse, List.reverse_concat, List.find?_cons]
    by_cases hname : p.name = name
    · simp [hname]
    · simp [hname]

/-- Where names do not repeat, each parameter is found under its name. -/
theorem describe?_of_mem {ps : List Parameter} (h : (ps.map name).Nodup) {p : Parameter}
    (hp : p ∈ ps) : describe? ps p.name = some p.description := by
  obtain ⟨q, hq⟩ := Option.isSome_iff_exists.1
    (List.find?_isSome (p := (·.name = p.name)).2 ⟨p, hp, by simp⟩)
  have hname : q.name = p.name := by simpa using List.find?_some hq
  have heq : q = p := List.inj_on_of_nodup_map h (List.mem_of_find?_eq_some hq) hp hname
  rw [describe?, hq, heq]
  rfl

theorem name_of_findRev? {ps : List Parameter} {p : Parameter} {name : Text}
    (h : ps.findRev? (·.name = name) = some p) : p.name = name := by
  rw [List.findRev?_eq_find?_reverse] at h
  simpa using List.find?_some h

theorem findRev?_eq_none_iff {ps : List Parameter} {name : Text} :
    ps.findRev? (·.name = name) = none ↔ name ∉ ps.map Parameter.name := by
  rw [List.findRev?_eq_find?_reverse, List.find?_eq_none]
  simp

end Parameter

/-! ## Records -/

/-- The names of a record.  Its parameters are those that are declared, each once and in the order
of the first declarations, as they are declared last; the last declaration is what is found under
the name, and nothing is found under any other text.  Its members are the names that are given for
them, each once and in the order in which they come first. -/
theorem listsFirst_of_parse {comment : Text} {r : Record} (h : parse comment = .ok r) :
    let lines := Line.split comment
    let declared := Parameter.declared lines
    Identifier.ListsFirst (declared.map Parameter.name) (r.parameters.map Parameter.name) ∧
    (∀ p ∈ r.parameters, declared.findRev? (·.name = p.name) = some p) ∧
    (∀ name, r.parameter? name =
        (declared.findRev? (·.name = name)).map Parameter.description ∧
      (r.parameter? name = none ↔ name ∉ declared.map Parameter.name)) ∧
    Identifier.ListsFirst
      (((Tag.memberOf.occurrences lines).map (·.argument.trim)).filter Identifier.isValid)
      r.memberOf := by
  intro lines declared
  obtain ⟨-, rfl⟩ := Document.parse_eq_ok_iff.1 h
  have hparameters : (Document.ofLines lines).record.parameters =
      declared.foldl Parameter.declare [] := Parameter.ofSections_ofLines lines
  have hmembers : (Document.ofLines lines).record.memberOf = _ :=
    Identifier.membersOf_ofLines lines
  have hnames := Identifier.listsFirst_foldl_addNew (declared.map Parameter.name)
  rw [← Parameter.map_name_foldl_declare] at hnames
  have hlast : ∀ name, (Document.ofLines lines).record.parameter? name =
      (declared.findRev? (·.name = name)).map Parameter.description := by
    intro name
    rw [← Parameter.describe?_foldl_declare, ← hparameters]
    rfl
  refine ⟨hparameters ▸ hnames, fun p hp ↦ ?_, fun name ↦ ⟨hlast name, ?_⟩, ?_⟩
  · rw [hparameters] at hp
    have hdescribed := Parameter.describe?_of_mem hnames.nodup hp
    rw [Parameter.describe?_foldl_declare, Option.map_eq_some_iff] at hdescribed
    obtain ⟨q, hq, hdescription⟩ := hdescribed
    have hname : q.name = p.name := Parameter.name_of_findRev? hq
    rw [hq, Option.some_inj]
    cases q
    cases p
    rw [Parameter.mk.injEq]
    exact ⟨hname, hdescription⟩
  · rw [hlast, Option.map_eq_none_iff, Parameter.findRev?_eq_none_iff]
  · rw [hmembers]
    exact Identifier.listsFirst_foldl_addNew _

/-- Declarations of two parameters that take turns, with a wide space behind a name; and a member
that is named twice, beside one that has no name. -/
theorem listsFirst_of_parse_alternating :
    let comment := ("@param b one\n@memberof B\n@param a\u2003two\n@memberof A\n" ++
      "@param  b\n\n new\n@memberof 1\n@memberof B").toList
    let r : Record :=
      { parameters := [⟨['b'], "new".toList⟩, ⟨['a'], "two".toList⟩], memberOf := [['B'], ['A']] }
    parse comment = .ok r ∧
      (Parameter.declared (Line.split comment)).map Parameter.name = [['b'], ['a'], ['b']] ∧
      Identifier.ListsFirst [['b'], ['a'], ['b']] [['b'], ['a']] ∧
      r.parameter? ['b'] = some "new".toList ∧ r.parameter? ['c'] = none ∧
      Identifier.ListsFirst [['B'], ['A'], ['B']] [['B'], ['A']] := by
  intro comment r
  have h : parse comment = .ok r := by decide +kernel
  have hdeclared : (Parameter.declared (Line.split comment)).map Parameter.name =
      [['b'], ['a'], ['b']] := by decide +kernel
  have hnamed : ((Tag.memberOf.occurrences (Line.split comment)).map (·.argument.trim)).filter
      Identifier.isValid = [['B'], ['A'], ['B']] := by decide +kernel
  obtain ⟨hparameters, -, hfound, hmembers⟩ := listsFirst_of_parse h
  rw [hdeclared] at hparameters
  rw [hnamed] at hmembers
  refine ⟨h, hdeclared, hparameters, ?_, ?_, hmembers⟩
  · rw [(hfound ['b']).1]
    decide
  · rw [(hfound ['c']).2, hdeclared]
    decide

end DocComment
