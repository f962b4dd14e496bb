import DocComment.Record.Parse

/-!
# Documents cut at a tag start

Lines that are put before a tag start keep their preamble and their sections: the last section of
the first stretch ends at the tag start just as it would end with the lines.  So a document whose
lines are cut there falls into the sections of both parts (`Document.ofLines_append`), and the
sections of the second part carry the indices of their headers, moved by the lines before
(`Document.numbered_append`).

Markers accept tag starts only (`Tag.isTagStart_of_argument?`), which is why a tag occurs in the
sections of a document exactly when its marker accepts one of the lines.
-/

namespace DocComment

/-! ## Markers and tag starts -/

/-- A blank line is no tag start. -/
theorem Line.isTagStart_of_isBlank {line : Text} (h : line.isBlank = true) :
    isTagStart line = false := by
  rw [isTagStart, Text.trim_eq_nil_iff.2 h]
  rfl

/-- What a marker accepts begins with its token. -/
theorem Marker.eq_token_append_of_argument? {m : Marker} {trimmed argument : Text}
    (h : m.argument? trimmed = some argument) : ∃ rest, trimmed = m.token ++ rest := by
  obtain ⟨shape, token⟩ := m
  cases shape with
  | wholeLine =>
    simp only [Marker.argument?, Option.ite_none_right_eq_some] at h
    exact ⟨[], by rw [h.1, List.append_nil]⟩
  | spaced =>
    rw [Marker.argument?, Text.after?_eq_some_iff] at h
    exact ⟨' ' :: argument, by rw [h, List.append_assoc]; rfl⟩
  | bare =>
    rw [Marker.argument?, Text.after?_eq_some_iff] at h
    exact ⟨argument, h⟩

namespace Tag

theorem head?_token (tag : Tag) : tag.token.head? = some '@' := by
  cases tag <;> decide

/-- A line that a marker accepts is a tag start. -/
theorem isTagStart_of_argument? {tag : Tag} {line argument : Text}
    (h : tag.argument? line = some argument) : Line.isTagStart line = true := by
  obtain ⟨rest, hrest⟩ := Marker.eq_token_append_of_argument? h
  have hhead : line.trim.head? = some '@' := by
    rw [hrest, List.head?_append]
    exact congrArg (·.or rest.head?) tag.head?_token
  rw [Line.isTagStart, hhead]
  rfl

/-- No marker accepts a line that is not a tag start. -/
theorem argument?_eq_none {line : Text} (h : Line.isTagStart line = false) (tag : Tag) :
    tag.argument? line = none := by
  refine Option.eq_none_iff_forall_ne_some.2 fun argument hsome ↦ ?_
  rw [isTagStart_of_argument? hsome] at h
  exact Bool.noConfusion h

/-- Whether the marker of a tag accepts one of some lines. -/
def occursIn (lines : List Text) (tag : Tag) : Bool :=
  lines.any fun line ↦ (tag.argument? line).isSome

end Tag

/-- A tag has a section exactly when its marker accepts a line. -/
theorem Section.occurs_ofLines (tag : Tag) (lines : List Text) :
    Section.occurs tag (Document.ofLines lines).sections = tag.occursIn lines := by
  induction lines with
  | nil => rfl
  | cons line rest ih =>
    rw [Document.ofLines, Tag.occursIn, List.any_cons, ← Tag.occursIn, ← ih]
    by_cases h : Line.isTagStart line
    · rw [if_pos h]
      rfl
    · rw [if_neg h, tag.argument?_eq_none (Bool.eq_false_iff.2 h)]
      rfl

/-! ## Sections with their indices -/

namespace Section

theorem number_append (start : Nat) (before after : List Section) :
    number start (before ++ after) =
      number start before ++ number (start + (before.flatMap lines).length) after := by
  induction before generalizing start with
  | nil => rfl
  | cons s rest ih =>
    rw [List.cons_append, number, ih, number, List.flatMap_cons, List.length_append,
      Nat.add_assoc, List.cons_append]

/-- Sections that begin further down have their indices moved. -/
theorem number_add (start offset : Nat) (sections : List Section) :
    number (start + offset) sections =
      (number start sections).map (Prod.map (· + offset) id) := by
  induction sections generalizing start with
  | nil => rfl
  | cons s rest ih =>
    rw [number, number, List.map_cons, ← ih, Nat.add_right_comm]
    rfl

end Section

/-! ## Two stretches of lines -/

namespace Document

/-- Lines that begin with a tag start, or that are none, have no preamble. -/
theorem preamble_ofLines_eq_nil {ls : List Text}
    (h : ∀ line ∈ ls.head?, Line.isTagStart line = true) : (ofLines ls).preamble = [] := by
  cases ls with
  | nil => rfl
  | cons line rest => rw [ofLines, if_pos (h line rfl)]

theorem length_lines (d : Document) :
    d.lines.length = d.preamble.length + (d.sections.flatMap Section.lines).length :=
  List.length_append

/-- Cut at a tag start, lines have the preamble of the first part and the sections of both. -/
theorem ofLines_append (before : List Text) {after : List Text}
    (h : ∀ line ∈ after.head?, Line.isTagStart line = true) :
    ofLines (before ++ after) =
      ⟨(ofLines before).preamble, (ofLines before).sections ++ (ofLines after).sections⟩ := by
  induction before with
  | nil => exact congrArg (Document.mk · _) (preamble_ofLines_eq_nil h)
  | cons line rest ih =>
    rw [List.cons_append, ofLines, ih, ofLines]
    split <;> rfl

theorem numbered_append (before : List Text) {after : List Text}
    (h : ∀ line ∈ after.head?, Line.isTagStart line = true) :
    (ofLines (before ++ after)).numbered =
      (ofLines before).numbered ++
        (ofLines after).numbered.map (Prod.map (· + before.length) id) := by
  have hlength := length_lines (ofLines before)
  rw [lines_ofLines] at hlength
  rw [ofLines_append before h, numbered, Section.number_append, ← hlength,
    ← Nat.zero_add before.length, Section.number_add, Nat.zero_add, numbered, numbered,
    preamble_ofLines_eq_nil h]
  rfl

/-- A line in front moves the sections, and becomes one if it is a tag start. -/
theorem numbered_ofLines_cons (line : Text) (rest : List Text) :
    (ofLines (line :: rest)).numbered =
      (if Line.isTagStart line then [(0, ⟨line, (ofLines rest).preamble⟩)] else []) ++
        (ofLines rest).numbered.map (Prod.map (· + 1) id) := by
  rw [numbered, ofLines, numbered, ← Section.number_add]
  split
  case isTrue =>
    rw [Section.number, Section.lines, List.length_cons, List.length_nil, Nat.zero_add]
    rfl
  case isFalse => rfl

end Document

end DocComment
