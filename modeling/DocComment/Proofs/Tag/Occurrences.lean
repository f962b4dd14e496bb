import DocComment.Proofs.Line.Unbroken
import DocComment.Proofs.Record.Alike

/-!
# Occurrences of tags

A tag occurs on the lines that its marker accepts (`Tag.occurrences`).  An occurrence and the lines
that continue it are a section, and the sections that say something to the tag are those of its
occurrences.  So what a finisher makes of the sections of a document, it makes of the occurrences,
one by one and in line order, and where it drops none there are as many entries as lines that are
accepted (`Section.map_some_entries_ofLines`).
-/

namespace DocComment

open Line (continuation)

/-- A line that the marker of a tag accepts: its index, and the argument that the marker leaves. -/
structure Tag.Occurrence where
  line : Nat
  argument : Text
deriving DecidableEq, Repr

namespace Tag

variable {tag : Tag} {lines : List Text}

/-- The occurrences of a tag, in line order. -/
def occurrences (tag : Tag) (lines : List Text) : List Occurrence :=
  lines.zipIdx.filterMap fun x ↦ (tag.argument? x.1).map (Occurrence.mk x.2)

/-- The number of lines that the marker of a tag accepts. -/
def countIn (lines : List Text) (tag : Tag) : Nat :=
  lines.countP fun line ↦ (tag.argument? line).isSome

namespace Occurrence

/-- The occurrence when one more line comes before it. -/
def below (o : Occurrence) : Occurrence := { o with line := o.line + 1 }

/-- An occurrence with the lines that continue it. -/
def sectionIn (lines : List Text) (o : Occurrence) : Section :=
  ⟨lines.getD o.line [], continuation lines o.line⟩

@[simp] theorem argument_below (o : Occurrence) : o.below.argument = o.argument := rfl

@[simp] theorem sectionIn_below (line : Text) (rest : List Text) (o : Occurrence) :
    o.below.sectionIn (line :: rest) = o.sectionIn rest := rfl

end Occurrence

theorem occurrences_cons (tag : Tag) (line : Text) (rest : List Text) :
    tag.occurrences (line :: rest) =
      ((tag.argument? line).map (Occurrence.mk 0)).toList ++
        (tag.occurrences rest).map Occurrence.below := by
  have hmoved : ((rest.zipIdx.map (Prod.map id (· + 1))).filterMap fun x ↦
        (tag.argument? x.1).map (Occurrence.mk x.2)) =
      (tag.occurrences rest).map Occurrence.below := by
    rw [occurrences, List.filterMap_map, List.map_filterMap]
    refine List.filterMap_congr fun x _ ↦ ?_
    rw [Option.map_map]
    rfl
  rw [occurrences, List.zipIdx_cons', List.filterMap_cons, hmoved]
  dsimp only
  cases tag.argument? line with
  | none => rfl
  | some argument => rfl

theorem length_occurrences (tag : Tag) (lines : List Text) :
    (tag.occurrences lines).length = countIn lines tag := by
  have hlines : lines = lines.zipIdx.map Prod.fst := by rw [List.zipIdx_map_fst]
  rw [occurrences, List.length_filterMap_eq_countP, countIn]
  conv_rhs => rw [hlines, List.countP_map]
  refine List.countP_congr fun x _ ↦ ?_
  rw [Option.isSome_map]
  rfl

theorem exists_of_mem_occurrences {o : Occurrence} (h : o ∈ tag.occurrences lines) :
    ∃ line, lines[o.line]? = some line ∧ tag.argument? line = some o.argument := by
  obtain ⟨⟨line, index⟩, hline, hoccurrence⟩ := List.mem_filterMap.1 h
  obtain ⟨argument, hargument, rfl⟩ := Option.map_eq_some_iff.1 hoccurrence
  exact ⟨line, List.mem_zipIdx_iff_getElem?.1 hline, hargument⟩

/-- A tag that a space has to follow has something behind the space on every accepted line. -/
theorem isBlank_of_mem_occurrences {o : Occurrence} (hshape : tag.shape = .spaced)
    (h : o ∈ tag.occurrences lines) : o.argument.isBlank = false := by
  obtain ⟨line, -, hargument⟩ := exists_of_mem_occurrences h
  exact isBlank_of_argument? hshape hargument

theorem occurrences_eq_nil_iff :
    tag.occurrences lines = [] ↔ occursIn lines tag = false := by
  rw [← List.length_eq_zero_iff, length_occurrences, countIn, List.countP_eq_zero, occursIn,
    List.any_eq_false]

end Tag

/-! ## Entries -/

namespace Section

open Tag (Occurrence)

variable {α : Type} (tag : Tag) (finish : Text → Section → Option α) (lines : List Text)

/-- The entries of a tag are made of its occurrences. -/
theorem entries_ofLines :
    entries tag finish (Document.ofLines lines).sections =
      (tag.occurrences lines).filterMap fun o ↦ finish o.argument (o.sectionIn lines) := by
  induction lines with
  | nil => rfl
  | cons line rest ih =>
    have hrest : ((tag.occurrences rest).map Occurrence.below).filterMap
          (fun o ↦ finish o.argument (o.sectionIn (line :: rest))) =
        entries tag finish (Document.ofLines rest).sections := by
      rw [ih, List.filterMap_map]
      rfl
    rw [Tag.occurrences_cons, List.filterMap_append, hrest, Document.ofLines]
    split
    case isTrue =>
      have hfirst : entries tag finish [⟨line, (Document.ofLines rest).preamble⟩] =
          ((tag.argument? line).map (Occurrence.mk 0)).toList.filterMap
            fun o ↦ finish o.argument (o.sectionIn (line :: rest)) := by
        rw [Document.preamble_ofLines, entries_singleton, argument?]
        cases tag.argument? line with
        | none => rfl
        | some argument =>
          have hsection : (Occurrence.mk 0 argument).sectionIn (line :: rest) =
              ⟨line, rest.takeWhile (!Line.isTagStart ·)⟩ := rfl
          cases hfinish : finish argument ⟨line, rest.takeWhile (!Line.isTagStart ·)⟩ <;>
            simp [hsection, hfinish]
      rw [← hfirst, ← entries_append, List.singleton_append]
    case isFalse hstart =>
      rw [tag.argument?_eq_none (Bool.eq_false_iff.2 hstart)]
      rfl

/-- Each occurrence that the finisher makes something of has its entry, in line order. -/
theorem map_some_entries_ofLines :
    (entries tag finish (Document.ofLines lines).sections).map some =
      ((tag.occurrences lines).filter fun o ↦
        (finish o.argument (o.sectionIn lines)).isSome).map fun o ↦
          finish o.argument (o.sectionIn lines) := by
  rw [entries_ofLines, List.map_filterMap_some_eq_filter_map_isSome, List.filter_map]
  rfl

end Section

end DocComment
