import DocComment.Proofs.CodeBlock.Kept
import DocComment.Proofs.Document.Complaint
import DocComment.Proofs.Prose.Words
import DocComment.Proofs.Record.Names
import Mathlib.Data.Finset.Card

/-!
# Entries of a record

No occurrence of a tag gets lost.  Prose that has something on its first line is never empty, so
every occurrence of a tag that a space has to follow has its text (`Prose.isSome_reflow`); an error
whose type is not closed makes the comment unreadable, so every error of a record that there is has
its entry; and the entries that are dropped are namespaces without a name and examples without code.
What is left stands in line order (`Record.InLineOrder`).
-/

namespace DocComment

open Unicode
open Line (continuation)
open Prose (reflow)

/-! ## What an occurrence says -/

namespace Tag.Occurrence

variable (lines : List Text) (o : Occurrence)

/-- The text behind the tag and on the lines below. -/
def text? : Option Text := reflow o.argument (continuation lines o.line)

/-- The error that the occurrence names. -/
def throw? : Option Throw := Throw.ofArgument? o.argument (continuation lines o.line)

/-- The namespace with the argument as its name. -/
def namespaceIn : Namespace := ⟨o.argument.trim, reflow [] (continuation lines o.line)⟩

/-- Whether the argument is a name. -/
def isNamed : Bool := Identifier.isValid o.argument.trim

/-- The column of the tag on its line. -/
def column : Nat := ((lines.getD o.line []).takeWhile isWhiteSpace).length

/-- The example with the argument as its caption. -/
def example? : Option Example :=
  (CodeBlock.cut (o.column lines) (continuation lines o.line)).map fun code ↦
    ⟨o.argument.nonBlank?, code⟩

/-- Whether one of the lines below has a character that is not white space, at the column of the tag
or to the right of it. -/
def hasCode : Bool :=
  (continuation lines o.line).any fun line ↦ (line.drop (o.column lines)).any (!isWhiteSpace ·)

end Tag.Occurrence

/-- Each list of the record has its entries in line order: one for each occurrence, but for
namespaces without a name and examples without code. -/
structure Record.InLineOrder (lines : List Text) (r : Record) : Prop where
  authors : r.authors = (Tag.author.occurrences lines).map fun o ↦ .ofArgument o.argument
  copyright : r.copyright.map some = (Tag.copyright.occurrences lines).map (·.text? lines)
  todo : r.todo.map some = (Tag.todo.occurrences lines).map (·.text? lines)
  throws : r.throws.map some = (Tag.throws.occurrences lines).map (·.throw? lines)
  namespaces : r.namespaces =
    ((Tag.namespaceName.occurrences lines).filter (·.isNamed)).map (·.namespaceIn lines)
  examples : r.examples.map some =
    ((Tag.codeExample.occurrences lines).filter (·.hasCode lines)).map (·.example? lines)

/-! ## Nothing is dropped -/

/-- A seed that is not blank is text. -/
theorem Prose.isSome_reflow {seed : Text} (h : seed.isBlank = false) (lines : List Text) :
    (reflow seed lines).isSome = true := by
  have hsteps : (lines.map Step.line).foldl add (seeded seed) = lines.foldl addLine (seeded seed) :=
    List.foldl_map
  rw [← Option.ne_none_iff_isSome, reflow, finish, Ne, Text.nonBlank?_eq_none_iff,
    ← Text.words_eq_nil_iff, ← hsteps, words_foldl_add, text_seeded, Text.words_trim,
    List.append_eq_nil_iff, Text.words_eq_nil_iff, h]
  exact fun hwords ↦ Bool.false_ne_true hwords.1

namespace Section

variable {lines : List Text} {tag : Tag}

/-- A tag that a space has to follow has a text for each occurrence. -/
theorem map_some_texts_ofLines (hshape : tag.shape = .spaced) :
    (texts tag (Document.ofLines lines).sections).map some =
      (tag.occurrences lines).map (·.text? lines) := by
  rw [texts, map_some_entries_ofLines, List.filter_eq_self.2]
  · rfl
  · intro o ho
    exact Prose.isSome_reflow (Tag.isBlank_of_mem_occurrences hshape ho) _

theorem lastText_ofLines (tag : Tag) (lines : List Text) :
    lastText tag (Document.ofLines lines).sections =
      (tag.occurrences lines).getLast?.bind (·.text? lines) := by
  have hentries : entries tag (fun argument s ↦ some (reflow argument s.body))
        (Document.ofLines lines).sections =
      (tag.occurrences lines).map (·.text? lines) := by
    rw [entries_ofLines, ← List.filterMap_eq_map]
    rfl
  rw [lastText, hentries, List.getLast?_map]
  cases (tag.occurrences lines).getLast? <;> rfl

/-- The last occurrence has a text, too, so there is one as soon as the tag occurs. -/
theorem isSome_lastText_ofLines (hshape : tag.shape = .spaced) :
    (lastText tag (Document.ofLines lines).sections).isSome = tag.occursIn lines := by
  rw [lastText_ofLines]
  cases hlast : (tag.occurrences lines).getLast? with
  | none =>
    rw [List.getLast?_eq_none_iff, Tag.occurrences_eq_nil_iff] at hlast
    rw [hlast]
    rfl
  | some o =>
    have ho := List.mem_of_getLast? hlast
    have hoccurs : tag.occursIn lines = true := by
      refine Bool.of_not_eq_false fun hnot ↦ ?_
      rw [Tag.occurrences_eq_nil_iff.2 hnot] at ho
      cases ho
    rw [hoccurs]
    exact Prose.isSome_reflow (Tag.isBlank_of_mem_occurrences hshape ho) _

end Section

/-- Whatever the last deprecation says, it is one. -/
theorem Deprecation.ofSections_ne_no_iff {lines : List Text} :
    ofSections (Document.ofLines lines).sections ≠ .no ↔ Tag.occursIn lines .deprecated := by
  have hnil : Section.entries .deprecated (fun argument s ↦ some (reflow argument s.body))
      (Document.ofLines lines).sections = [] ↔ Tag.occursIn lines .deprecated = false := by
    rw [Section.entries_eq_nil_iff, Section.occurs_ofLines]
  rw [← Bool.not_eq_false, ← hnil, ← List.getLast?_eq_none_iff, ofSections]
  split <;> simp_all

namespace Tag.Occurrence

variable {lines : List Text} {o : Occurrence}

/-- In a comment that can be read, every type that is opened is closed. -/
theorem isSome_throw? (h : (Document.ofLines lines).malformed? = none)
    (ho : o ∈ Tag.throws.occurrences lines) : (o.throw? lines).isSome = true := by
  obtain ⟨line, hline, hargument⟩ := exists_of_mem_occurrences ho
  have hreadable := Document.malformed?_ofLines_eq_none_iff.1 h line (List.mem_of_getElem? hline)
  rw [← Line.isMalformed_iff, Line.isMalformed, Section.isMalformed, Section.argument?,
    hargument] at hreadable
  rw [← Option.not_isNone, throw?, Throw.isNone_ofArgument? _ _ [], Bool.not_eq_true']
  exact Bool.eq_false_iff.2 hreadable

theorem isSome_example? (lines : List Text) (o : Occurrence) :
    (o.example? lines).isSome = o.hasCode lines := by
  rw [Bool.eq_iff_iff, example?, Option.isSome_map, ← Option.ne_none_iff_isSome, Ne,
    CodeBlock.cut_eq_none_iff, hasCode]
  simp [Text.isBlank]

end Tag.Occurrence

theorem Namespace.ofSections_ofLines (lines : List Text) :
    ofSections (Document.ofLines lines).sections =
      ((Tag.namespaceName.occurrences lines).filter (·.isNamed)).map (·.namespaceIn lines) := by
  rw [ofSections, Section.entries_ofLines, ← List.filterMap_eq_filter, List.map_filterMap]
  refine List.filterMap_congr fun o _ ↦ ?_
  rw [Identifier.ofArgument?, Option.guard, Tag.Occurrence.isNamed]
  split <;> rfl

/-- As many names are listed as there are different ones. -/
theorem Identifier.ListsFirst.length_eq {names listed : List Text} (h : ListsFirst names listed) :
    listed.length = names.toFinset.card := by
  have hsame : names.toFinset = listed.toFinset := by
    ext name
    rw [List.mem_toFinset, List.mem_toFinset, h.mem_iff]
  rw [hsame, List.toFinset_card_of_nodup h.nodup]

theorem Parameter.length_ofSections_ofLines (lines : List Text) :
    (ofSections (Document.ofLines lines).sections).length =
      ((declared lines).map name).toFinset.card := by
  rw [ofSections_ofLines, ← List.length_map name, map_name_foldl_declare]
  exact (Identifier.listsFirst_foldl_addNew _).length_eq

/-! ## Records -/

theorem Document.inLineOrder_record {lines : List Text}
    (h : (ofLines lines).malformed? = none) : (ofLines lines).record.InLineOrder lines where
  authors := by
    rw [← List.filterMap_eq_map]
    exact Section.entries_ofLines ..
  copyright := Section.map_some_texts_ofLines rfl
  todo := Section.map_some_texts_ofLines rfl
  throws := by
    refine (Section.map_some_entries_ofLines ..).trans (congrArg (List.map _) ?_)
    exact List.filter_eq_self.2 fun o ho ↦ Tag.Occurrence.isSome_throw? h ho
  namespaces := Namespace.ofSections_ofLines lines
  examples := by
    refine (Section.map_some_entries_ofLines ..).trans (congrArg (List.map _) ?_)
    exact List.filter_congr fun o _ ↦ o.isSome_example? lines

/-- No occurrence that is accepted disappears from the record of a comment.  Authors, copyright
notices, things to do and errors are as many as the lines that their markers accept; there is a text
about what is returned, and a deprecation, as soon as a line is accepted for it; namespaces are as
many as the accepted lines with a name, parameters as the different names that are declared, and
examples as the accepted lines with something below, at or to the right of the tag.  All of them
stand in line order. -/
theorem length_entries_of_parse {comment : Text} {r : Record} (h : parse comment = .ok r) :
    let lines := Line.split comment
    (r.authors.length = Tag.countIn lines .author ∧
      r.copyright.length = Tag.countIn lines .copyright ∧
      r.todo.length = Tag.countIn lines .todo ∧
      r.throws.length = Tag.countIn lines .throws) ∧
    (r.returns.isSome ↔ Tag.occursIn lines .returns) ∧
    (r.deprecated ≠ .no ↔ Tag.occursIn lines .deprecated) ∧
    r.namespaces.length = (Tag.namespaceName.occurrences lines).countP (·.isNamed) ∧
    r.parameters.length = ((Parameter.declared lines).map Parameter.name).toFinset.card ∧
    r.examples.length = (Tag.codeExample.occurrences lines).countP (·.hasCode lines) ∧
    r.InLineOrder lines := by
  intro lines
  obtain ⟨hreadable, rfl⟩ := Document.parse_eq_ok_iff.1 h
  rw [← Document.isSome_malformed?, Option.isSome_eq_false_iff, Option.isNone_iff_eq_none]
    at hreadable
  have horder := Document.inLineOrder_record hreadable
  refine ⟨⟨?_, ?_, ?_, ?_⟩, ?_, Deprecation.ofSections_ne_no_iff, ?_,
    Parameter.length_ofSections_ofLines lines, ?_, horder⟩
  · simpa [Tag.length_occurrences] using congrArg List.length horder.authors
  · simpa [Tag.length_occurrences] using congrArg List.length horder.copyright
  · simpa [Tag.length_occurrences] using congrArg List.length horder.todo
  · simpa [Tag.length_occurrences] using congrArg List.length horder.throws
  · rw [← Section.isSome_lastText_ofLines rfl]
    rfl
  · simpa [List.countP_eq_length_filter] using congrArg List.length horder.namespaces
  · simpa [List.countP_eq_length_filter] using congrArg List.length horder.examples

/-- Empty brackets, a namespace that is none, a parameter that is declared twice, and two examples
of which only the second has something that is not to the left of the tag. -/
theorem length_entries_of_parse_dropped :
    let comment := ("@throws []\n@throws e\n@namespace 1\n  @example a\n \n  @example b\n x\n" ++
      "  y\n@returns\n@param p\n@param p q").toList
    let lines := Line.split comment
    let r : Record :=
      { throws := [⟨none, none⟩, ⟨none, some ['e']⟩], examples := [⟨some ['b'], ['y']⟩]
        parameters := [⟨['p'], ['q']⟩] }
    parse comment = .ok r ∧ Tag.countIn lines .throws = 2 ∧
      Tag.occursIn lines .returns = false ∧ Tag.countIn lines .namespaceName = 1 ∧
      (Tag.namespaceName.occurrences lines).countP (·.isNamed) = 0 ∧
      ((Parameter.declared lines).map Parameter.name).toFinset.card = 1 ∧
      (Tag.codeExample.occurrences lines).countP (·.hasCode lines) = 1 ∧
      r.InLineOrder lines := by
  intro comment lines r
  have h : parse comment = .ok r := by decide +kernel
  obtain ⟨⟨-, -, -, hthrows⟩, hreturns, -, hnamespaces, hparameters, hexamples, horder⟩ :=
    length_entries_of_parse h
  refine ⟨h, hthrows.symm, Bool.eq_false_iff.2 fun hoccurs ↦ ?_, by decide +kernel,
    hnamespaces.symm, hparameters.symm, hexamples.symm, horder⟩
  cases hreturns.2 hoccurs

end DocComment
