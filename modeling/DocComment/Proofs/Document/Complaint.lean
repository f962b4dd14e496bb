import DocComment.Proofs.Record.Alike
import DocComment.Proofs.Text.Trim

/-!
# The complaint about a document

Whether a section can be read is decided by its header alone (`Section.isMalformed_header`): it
cannot when the header opens the type of an error and does not close it
(`Line.isMalformed_eq_isUnclosed`).  So the complaint about some lines is about the first line that
does so, wherever the sections begin (`Document.malformed?_ofLines`), and this is the one way for a
comment to be unreadable (`parse_eq_error_iff_opensType`); seen from the sections, the complaint is
about the first malformed one, and the lines of the preamble and of the sections before it are
counted (`Document.malformed?_append_cons`).
-/

namespace DocComment

/-! ## What a line says -/

/-- Whether a line names an error that cannot be read. -/
def Line.isMalformed (line : Text) : Bool := (Section.mk line []).isMalformed

theorem Section.isMalformed_header (s : Section) : s.isMalformed = Line.isMalformed s.header := by
  rw [Line.isMalformed, isMalformed, isMalformed]
  cases h : s.argument? .throws with
  | none =>
    rw [argument?] at h ⊢
    rw [h]
  | some argument =>
    rw [argument?] at h ⊢
    rw [h]
    exact Throw.isNone_ofArgument? argument s.body []

/-- A line that is not a tag start names no error. -/
theorem Line.isMalformed_eq_false {line : Text} (h : isTagStart line = false) :
    isMalformed line = false := by
  rw [isMalformed, Section.isMalformed, Section.argument?, Tag.argument?_eq_none h]

/-- The line opens the type of an error and does not close it. -/
def Line.isUnclosed (line : Text) : Bool :=
  (line.trim.after? "@throws [".toList).any fun inside ↦ !inside.contains ']'

/-- An argument cannot be split when it opens a bracket that it does not close. -/
theorem Throw.isNone_ofArgument?_eq (argument : Text) (body : List Text) :
    (ofArgument? argument body).isNone =
      (argument.after? ['[']).any fun inside ↦ !inside.contains ']' := by
  rw [ofArgument?.eq_def]
  split
  case h_1 inside =>
    have hcut : (Text.splitFirst? (· = ']') inside).isSome = inside.contains ']' := by
      rw [Text.isSome_splitFirst?, ← List.any_beq']
      rfl
    have hinside : Text.after? ('[' :: inside) ['['] = some inside := Text.after?_eq_some_iff.2 rfl
    rw [Option.isNone_map, ← Option.not_isSome, hcut, hinside]
    rfl
  case h_2 hbracket =>
    have hnone : argument.after? ['['] = none := by
      refine Option.eq_none_iff_forall_ne_some.2 fun inside h ↦ ?_
      exact hbracket inside (Text.after?_eq_some_iff.1 h)
    rw [hnone]
    rfl

/-- The lines that no record can be made of are those that leave a type unclosed. -/
theorem Line.isMalformed_eq_isUnclosed (line : Text) : isMalformed line = isUnclosed line := by
  have hargument :
      Section.argument? .throws ⟨line, []⟩ = line.trim.after? "@throws ".toList := rfl
  have hstart : "@throws [".toList = "@throws ".toList ++ ['['] := by decide
  rw [isMalformed, Section.isMalformed, hargument, isUnclosed, hstart, Text.after?_append]
  cases line.trim.after? "@throws ".toList with
  | none => rfl
  | some argument => exact Throw.isNone_ofArgument?_eq argument []

/-- White space apart, the line begins with `@throws [`, and no bracket closes what this one
opens. -/
def Line.OpensType (line : Text) : Prop :=
  ∃ inside, line.trim = "@throws [".toList ++ inside ∧ ']' ∉ inside

theorem Line.isMalformed_iff {line : Text} : isMalformed line = true ↔ OpensType line := by
  rw [isMalformed_eq_isUnclosed, isUnclosed, Option.any_eq_true, OpensType]
  refine exists_congr fun inside ↦ and_congr Text.after?_eq_some_iff ?_
  rw [Bool.not_eq_true', Bool.eq_false_iff, Ne, List.contains_iff_mem]

namespace Document

/-! ## Lines -/

/-- The first malformed section has the first line that cannot be read as its header. -/
theorem find?_numbered_ofLines (ls : List Text) :
    ((ofLines ls).numbered.find? (·.2.isMalformed)).map Prod.fst =
      ls.findIdx? Line.isMalformed := by
  induction ls with
  | nil => rfl
  | cons line rest ih =>
    have hmoved : (((ofLines rest).numbered.map (Prod.map (· + 1) id)).find?
        (·.2.isMalformed)).map Prod.fst = (rest.findIdx? Line.isMalformed).map (· + 1) := by
      rw [List.find?_map, ← ih, Option.map_map, Option.map_map]
      rfl
    rw [numbered_ofLines_cons, List.find?_append, Option.map_or, hmoved, List.findIdx?_cons]
    by_cases hstart : Line.isTagStart line = true
    · rw [if_pos hstart, List.find?_singleton, Section.isMalformed_header]
      split
      case isTrue => rfl
      case isFalse => rfl
    · rw [if_neg hstart, Line.isMalformed_eq_false (Bool.eq_false_iff.2 hstart)]
      rfl

/-- The complaint is about the first line that cannot be read. -/
theorem malformed?_ofLines (ls : List Text) :
    (ofLines ls).malformed? =
      (ls.findIdx? Line.isMalformed).map fun i ↦ ⟨.throws, i, .unclosedType⟩ := by
  rw [malformed?, ← find?_numbered_ofLines, Option.map_map]
  rfl

/-- What the complaint about some lines says. -/
theorem malformed?_ofLines_eq_some_iff {ls : List Text} {e : Malformed} :
    (ofLines ls).malformed? = some e ↔
      e.tag = .throws ∧ e.fault = .unclosedType ∧
        (∃ line, ls[e.line]? = some line ∧ Line.OpensType line) ∧
        ∀ i < e.line, ∀ line, ls[i]? = some line → ¬Line.OpensType line := by
  obtain ⟨tag, i, fault⟩ := e
  rw [malformed?_ofLines, Option.map_eq_some_iff]
  constructor
  · rintro ⟨_, hfind, ⟨⟩⟩
    obtain ⟨hi, hline, hbefore⟩ := List.findIdx?_eq_some_iff_getElem.1 hfind
    refine ⟨rfl, rfl, ⟨_, List.getElem?_eq_getElem hi, Line.isMalformed_iff.1 hline⟩, ?_⟩
    intro j hj line hjline hopens
    obtain ⟨_, rfl⟩ := List.getElem?_eq_some_iff.1 hjline
    exact hbefore j hj (Line.isMalformed_iff.2 hopens)
  · rintro ⟨⟨⟩, ⟨⟩, ⟨line, hline, hopens⟩, hbefore⟩
    obtain ⟨hi, rfl⟩ := List.getElem?_eq_some_iff.1 hline
    refine ⟨i, List.findIdx?_eq_some_iff_getElem.2 ⟨hi, Line.isMalformed_iff.2 hopens, ?_⟩, rfl⟩
    intro j hj hmalformed
    exact hbefore j hj _ (List.getElem?_eq_getElem (hj.trans hi))
      (Line.isMalformed_iff.1 hmalformed)

theorem malformed?_ofLines_eq_none_iff {ls : List Text} :
    (ofLines ls).malformed? = none ↔ ∀ line ∈ ls, ¬Line.OpensType line := by
  rw [malformed?_ofLines, Option.map_eq_none_iff, List.findIdx?_eq_none_iff]
  refine forall₂_congr fun line _ ↦ ?_
  rw [← Line.isMalformed_iff, Bool.not_eq_true]

/-! ## Sections -/

variable {preamble : List Text} {before after : List Section} {s : Section} {e : Malformed}

/-- The first malformed section is complained about, at its header. -/
theorem malformed?_append_cons (hbefore : before.any Section.isMalformed = false)
    (hs : s.isMalformed = true) :
    (mk preamble (before ++ s :: after)).malformed? =
      some ⟨.throws, preamble.length + (before.flatMap Section.lines).length, .unclosedType⟩ := by
  have hnone : (Section.number preamble.length before).find? (·.2.isMalformed) = none := by
    rw [← Section.map_snd_number preamble.length before, List.any_map] at hbefore
    exact List.find?_eq_none.2 (List.any_eq_false.1 hbefore)
  rw [malformed?, numbered, Section.number_append, List.find?_append, hnone, Option.none_or,
    Section.number, List.find?_cons, hs]
  rfl

/-- Where there is a complaint, a section is the first malformed one. -/
theorem exists_first_of_malformed? (h : (mk preamble before).malformed? = some e) :
    ∃ first s rest, before = first ++ s :: rest ∧ first.any Section.isMalformed = false ∧
      s.isMalformed = true ∧
      e = ⟨.throws, preamble.length + (first.flatMap Section.lines).length, .unclosedType⟩ := by
  have hany : before.any Section.isMalformed = true := by
    rw [← isSome_malformed? ⟨preamble, before⟩, h]
    rfl
  obtain ⟨s, hfind⟩ := Option.isSome_iff_exists.1 (List.find?_isSome.2 (List.any_eq_true.1 hany))
  obtain ⟨hs, first, rest, rfl, hfirst⟩ := List.find?_eq_some_iff_append.1 hfind
  have hnone : first.any Section.isMalformed = false := by
    simpa using hfirst
  refine ⟨first, s, rest, rfl, hnone, hs, ?_⟩
  rw [malformed?_append_cons hnone hs, Option.some_inj] at h
  exact h.symm

theorem parse_eq_error_iff_malformed? {d : Document} :
    d.parse = .error e ↔ d.malformed? = some e := by
  rw [parse]
  cases d.malformed? with
  | some e' => simp
  | none => simp

end Document

/-! ## Unreadable comments -/

/-- When a comment cannot be read.  There is an error exactly when some line opens the type of an
error and does not close it.  Then the error is about the tag of errors on the first such line,
whatever else the comment says; and where there is no such line, the comment is read. -/
theorem parse_eq_error_iff_opensType (comment : Text) :
    ((∃ e, parse comment = .error e) ↔ ∃ line ∈ Line.split comment, Line.OpensType line) ∧
    (∀ e, parse comment = .error e ↔
      e.tag = .throws ∧ e.fault = .unclosedType ∧
        (∃ line, (Line.split comment)[e.line]? = some line ∧ Line.OpensType line) ∧
        ∀ i < e.line, ∀ line, (Line.split comment)[i]? = some line → ¬Line.OpensType line) ∧
    ((∀ line ∈ Line.split comment, ¬Line.OpensType line) →
      parse comment = .ok (Document.ofText comment).record) := by
  have herror : ∀ e, parse comment = .error e ↔
      (Document.ofText comment).malformed? = some e :=
    fun e ↦ Document.parse_eq_error_iff_malformed?
  refine ⟨?_, fun e ↦ (herror e).trans Document.malformed?_ofLines_eq_some_iff, fun hnone ↦ ?_⟩
  · calc (∃ e, parse comment = .error e)
        ↔ (Document.ofText comment).malformed? ≠ none := by
          rw [exists_congr herror, Option.ne_none_iff_exists']
      _ ↔ ∃ line ∈ Line.split comment, Line.OpensType line := by
          rw [Document.ofText, Ne, Document.malformed?_ofLines_eq_none_iff]
          simp only [not_forall, not_not, exists_prop]
  · have hmalformed := Document.malformed?_ofLines_eq_none_iff.2 hnone
    rw [parse, parseLines, Document.parse, hmalformed]
    rfl

/-- A bracket on a line below closes nothing, and one behind two spaces opens nothing. -/
theorem parse_eq_error_iff_opensType_below :
    let comment := "@throws  [a\n\t@throws [b\nc] d\n@throws [e".toList
    (Line.split comment)[1]? = some "\t@throws [b".toList ∧
      Line.OpensType "\t@throws [b".toList ∧ ¬Line.OpensType "@throws  [a".toList ∧
      parse comment = .error ⟨.throws, 1, .unclosedType⟩ := by
  intro comment
  have hopens : Line.OpensType "\t@throws [b".toList := ⟨['b'], by decide, by decide⟩
  have hspaces : ¬Line.OpensType "@throws  [a".toList := by
    rw [← Line.isMalformed_iff]
    decide
  refine ⟨by decide, hopens, hspaces, ((parse_eq_error_iff_opensType comment).2.1 _).2 ?_⟩
  refine ⟨rfl, rfl, ⟨_, by decide, hopens⟩, ?_⟩
  rintro (_ | i) hi line hline
  · cases hline
    exact hspaces
  · exact absurd hi (by simp)

end DocComment
