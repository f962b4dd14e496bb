import DocComment.Proofs.Line.Partition
import DocComment.Proofs.Record.Single
import DocComment.Proofs.Record.WellFormed
import DocComment.Proofs.Text.Paragraphs

/-!
# The texts that prose can be

Which texts can stand in a record as prose, and how each of them is written down in a comment.  The
lines of such a text are trimmed, the first and the last one are not empty, and none but the first
begins like a tag (`Text.IsReflowed`).

That nothing else is collected is seen while it is collected: every line of a comment keeps the text
laid out (`Prose.isLaidOut_addLine`), and what is trimmed off at the end are line feeds
(`Text.IsLaidOut.trimEnd`).  Conversely, such a text is written with an empty line for each line
feed (`Tag.written`), and the lines that are put in between are what puts the line feeds back
(`Prose.text_foldl_spread`).
-/

namespace DocComment

open Unicode

/-! ## Texts that are laid out -/

namespace Text

variable {t s last : Text} {init : List Text} {c : Char}

/-- A text whose first line may be anything that is trimmed, and whose further lines are not taken
for tags.  It begins with something that can be seen, but may end with line feeds. -/
structure IsLaidOut (t : Text) : Prop where
  trimmedStart : t.trimStart = t
  trimmed : ∀ line ∈ t.paragraphs, line.IsTrimmed
  noTag : ∀ line ∈ t.paragraphs.tail, line.head? ≠ some '@'

/-- A text that prose can be. -/
@[mk_iff]
structure IsReflowed (t : Text) : Prop where
  nonempty : t ≠ []
  onlyFeeds : t.OnlyFeeds
  head : t.head? ≠ some '\n'
  last : t.getLast? ≠ some '\n'
  trimmed : ∀ line ∈ t.paragraphs, line.IsTrimmed
  noTag : ∀ line ∈ t.paragraphs.tail, line.head? ≠ some '@'

instance (t : Text) : Decidable t.IsReflowed := decidable_of_iff' _ (isReflowed_iff t)

theorem isLaidOut_of_notMem (h : t.IsTrimmed) (hfeed : '\n' ∉ t) : t.IsLaidOut where
  trimmedStart := (isTrimmed_iff.1 h).1
  trimmed := by
    rw [paragraphs_of_notMem hfeed]
    exact List.forall_mem_singleton.2 h
  noTag := by
    rw [paragraphs_of_notMem hfeed]
    exact List.forall_mem_nil _

namespace IsLaidOut

/-- A line feed opens an empty line. -/
theorem append_feed (h : t.IsLaidOut) (hne : t ≠ []) : IsLaidOut (t ++ ['\n']) := by
  have hparagraphs : (t ++ ['\n']).paragraphs = t.paragraphs ++ [[]] := paragraphs_append_feed t []
  refine ⟨trimStart_append h.trimmedStart hne _, ?_, ?_⟩
  · rw [hparagraphs, List.forall_mem_append]
    exact ⟨h.trimmed, List.forall_mem_singleton.2 isTrimmed_nil⟩
  · rw [hparagraphs, List.tail_append_of_ne_nil (paragraphs_ne_nil t), List.forall_mem_append]
    exact ⟨h.noTag, List.forall_mem_singleton.2 nofun⟩

/-- The last line may go on as long as it stays trimmed, and with anything but a tag if it is
empty. -/
theorem append (h : t.IsLaidOut) (hlast : t.paragraphs = init ++ [last]) (hs : '\n' ∉ s)
    (htrimmed : IsTrimmed (last ++ s)) (hnoTag : last = [] → s.head? ≠ some '@') :
    IsLaidOut (t ++ s) := by
  have hlines := h.trimmed
  have htags := h.noTag
  have hparagraphs := paragraphs_append hlast hs
  rw [hlast] at hlines htags
  refine ⟨?_, ?_, ?_⟩
  · rcases eq_or_ne t [] with rfl | hne
    · obtain rfl : last = [] := (last_eq_nil_iff hlast).2 nofun
      exact (isTrimmed_iff.1 htrimmed).1
    · exact trimStart_append h.trimmedStart hne s
  · rw [hparagraphs, List.forall_mem_append]
    exact ⟨(List.forall_mem_append.1 hlines).1, List.forall_mem_singleton.2 htrimmed⟩
  · rw [hparagraphs]
    cases init with
    | nil => exact List.forall_mem_nil _
    | cons first rest =>
      rw [List.cons_append, List.tail_cons, List.forall_mem_append] at htags ⊢
      refine ⟨htags.1, List.forall_mem_singleton.2 ?_⟩
      rcases eq_or_ne last [] with rfl | hne
      · exact hnoTag rfl
      · rw [List.head?_append_of_ne_nil last hne]
        exact htags.2 last (List.mem_singleton_self last)

/-- White space at the end is a line feed behind lines that are laid out. -/
theorem of_append_singleton (h : IsLaidOut (t ++ [c])) (hc : isWhiteSpace c = true) :
    t.IsLaidOut := by
  have hstart : t.trimStart = t := by
    have hall := trimStart_eq_self_iff.1 h.trimmedStart
    rw [trimStart_eq_self_iff]
    intro d hd
    refine hall d ?_
    rw [List.head?_append, Option.mem_def.1 hd]
    rfl
  rcases eq_or_ne c '\n' with rfl | hne
  · have hparagraphs : (t ++ ['\n']).paragraphs = t.paragraphs ++ [[]] :=
      paragraphs_append_feed t []
    have hlines := h.trimmed
    have htags := h.noTag
    rw [hparagraphs, List.forall_mem_append] at hlines
    rw [hparagraphs, List.tail_append_of_ne_nil (paragraphs_ne_nil t),
      List.forall_mem_append] at htags
    exact ⟨hstart, hlines.1, htags.1⟩
  · -- any other white space would be at the end of the last line, which is trimmed
    obtain ⟨init, last, hlast⟩ := exists_paragraphs t
    have hmem : last ++ [c] ∈ (t ++ [c]).paragraphs := by
      rw [paragraphs_append hlast (by simpa using hne.symm)]
      exact List.mem_concat_self
    have hend := trimEnd_eq_self_iff.1 (isTrimmed_iff.1 (h.trimmed _ hmem)).2
    rw [hend c List.getLast?_concat] at hc
    cases hc

theorem trimEnd (h : t.IsLaidOut) : t.trimEnd.IsLaidOut := by
  induction t using List.reverseRecOn with
  | nil => exact h
  | append_singleton t c ih =>
    by_cases hc : isWhiteSpace c = true
    case pos =>
      have hblank : isBlank [c] = true := by rw [isBlank, List.all_cons, hc]; rfl
      rw [trimEnd_append_blanks hblank]
      exact ih (h.of_append_singleton hc)
    case neg =>
      have hend : Text.trimEnd (t ++ [c]) = t ++ [c] := by
        rw [trimEnd_eq_self_iff, List.getLast?_concat]
        rintro _ ⟨⟩
        exact Bool.eq_false_iff.2 hc
      rw [hend]
      exact h

end IsLaidOut

end Text

open Text (IsReflowed IsLaidOut)

/-! ## What is collected -/

namespace Prose

variable {p : Prose} {line : Text} {lines : List Text}

/-- A line that does not start a tag keeps the text laid out. -/
theorem isLaidOut_addLine (hp : p.text.IsLaidOut) (hline : line.Unbroken)
    (hstart : Line.isTagStart line = false) : (p.addLine line).text.IsLaidOut := by
  obtain ⟨init, last, hlast⟩ := Text.exists_paragraphs p.text
  have hfeed : '\n' ∉ line.trim := (hline.mono (Text.trim_subset line)).notMem_feed
  have hnoTag : line.trim.head? ≠ some '@' := by
    rwa [Line.isTagStart, beq_eq_false_iff_ne] at hstart
  have htrimmed := Text.isTrimmed_trim line
  rw [addLine]
  split
  case isTrue =>
    rw [text_breakParagraph]
    split
    case isTrue => exact Text.isLaidOut_of_notMem Text.isTrimmed_nil List.not_mem_nil
    case isFalse hne => exact hp.append_feed hne
  case isFalse hblank =>
    have hatStart : p.isAtStart = true ↔ last = [] :=
      (isAtStart_iff p).trans (Text.last_eq_nil_iff hlast).symm
    rw [addWords, text_addAfter]
    split
    case isTrue hat =>
      obtain rfl := hatStart.1 hat
      exact hp.append hlast hfeed htrimmed fun _ ↦ hnoTag
    case isFalse hat =>
      have hne : last ≠ [] := fun hnil ↦ hat (hatStart.2 hnil)
      have hwords : line.trim ≠ [] := fun hnil ↦ hblank (Text.trim_eq_nil_iff.1 hnil)
      have hlastTrimmed : last.IsTrimmed := hp.trimmed last (hlast ▸ List.mem_concat_self)
      have hfeed' : '\n' ∉ [' '] ++ line.trim := by simpa using hfeed
      rw [List.append_assoc]
      exact hp.append hlast hfeed' (hlastTrimmed.append htrimmed hne hwords [' '])
        fun hnil ↦ absurd hnil hne

theorem isLaidOut_foldl (hp : p.text.IsLaidOut) (hlines : ∀ line ∈ lines, line.Unbroken)
    (hstart : ∀ line ∈ lines, Line.isTagStart line = false) :
    (lines.foldl addLine p).text.IsLaidOut := by
  induction lines generalizing p with
  | nil => exact hp
  | cons line rest ih =>
    obtain ⟨hline, hrest⟩ := List.forall_mem_cons.1 hlines
    obtain ⟨hlineStart, hrestStart⟩ := List.forall_mem_cons.1 hstart
    exact ih (isLaidOut_addLine hp hline hlineStart) hrest hrestStart

/-- What is made of an unbroken seed and of unbroken lines that start no tag. -/
theorem isReflowed_of_reflow {seed t : Text} (hseed : seed.Unbroken)
    (hlines : ∀ line ∈ lines, line.Unbroken)
    (hstart : ∀ line ∈ lines, Line.isTagStart line = false) (h : reflow seed lines = some t) :
    t.IsReflowed := by
  obtain ⟨hne, htrimmed, hfeeds⟩ := isProse_of_reflow hseed hlines h
  have hlaid : (lines.foldl addLine (seeded seed)).text.IsLaidOut := by
    refine isLaidOut_foldl ?_ hlines hstart
    rw [text_seeded]
    exact Text.isLaidOut_of_notMem (Text.isTrimmed_trim seed)
      (hseed.mono (Text.trim_subset seed)).notMem_feed
  have ht : t = (lines.foldl addLine (seeded seed)).text.trimEnd := by
    rw [reflow, finish, Text.nonBlank?, Option.ite_none_left_eq_some, Text.trim,
      hlaid.trimmedStart, Option.some_inj] at h
    exact h.2.symm
  obtain ⟨-, hparagraphs, hnoTag⟩ := ht ▸ hlaid.trimEnd
  obtain ⟨htrimStart, htrimEnd⟩ := Text.isTrimmed_iff.1 htrimmed
  refine ⟨hne, hfeeds, fun hhead ↦ ?_, fun hlast ↦ ?_, hparagraphs, hnoTag⟩
  · cases Text.trimStart_eq_self_iff.1 htrimStart _ hhead
  · cases Text.trimEnd_eq_self_iff.1 htrimEnd _ hlast

end Prose

/-- The text of the last occurrence of a tag in sections as they are cut from a comment. -/
theorem Section.isReflowed_lastText {sections : List Section} (tag : Tag)
    (hunbroken : ∀ s ∈ sections, s.Unbroken)
    (hstart : ∀ s ∈ sections, ∀ line ∈ s.body, Line.isTagStart line = false) :
    ∀ t ∈ lastText tag sections, t.IsReflowed := by
  intro t ht
  have hsections : ∀ s ∈ sections,
      s.Unbroken ∧ ∀ line ∈ s.body, Line.isTagStart line = false :=
    fun s hs ↦ ⟨hunbroken s hs, hstart s hs⟩
  refine of_getLast?_entries hsections (fun s a t hs ha ht ↦ ?_) (Option.join_eq_some_iff.1 ht)
  exact Prose.isReflowed_of_reflow (hs.1.argument ha) hs.1.body hs.2 ht

/-! ## How a text is written -/

namespace Text

variable {t : Text}

/-- A line with an empty line in front of it; an empty line is not written a second time. -/
def spreadLine (line : Text) : List Text := if line = [] then [[]] else [[], line]

/-- Lines with an empty line in front of each. -/
def spread (lines : List Text) : List Text := lines.flatMap spreadLine

theorem mem_of_mem_spread {lines : List Text} {line : Text} (h : line ∈ spread lines) :
    line = [] ∨ line ∈ lines := by
  obtain ⟨next, hnext, hline⟩ := List.mem_flatMap.1 h
  rw [spreadLine] at hline
  split at hline
  case isTrue => exact .inl (List.mem_singleton.1 hline)
  case isFalse =>
    rcases List.mem_cons.1 hline with hnil | hline
    · exact .inl hnil
    · exact .inr (List.mem_singleton.1 hline ▸ hnext)

/-- What is written for some lines ends with the last of them. -/
theorem getLast?_spread (lines : List Text) : (spread lines).getLast? = lines.getLast? := by
  rcases List.eq_nil_or_concat lines with rfl | ⟨init, last, rfl⟩
  · rfl
  · rw [List.concat_eq_append, List.getLast?_concat, spread, List.flatMap_append,
      List.flatMap_singleton, spreadLine]
    split
    case isTrue hnil =>
      rw [hnil]
      exact List.getLast?_concat
    case isFalse =>
      rw [List.getLast?_append_of_ne_nil _ (List.cons_ne_nil [] [last])]
      rfl

namespace IsReflowed

theorem firstLine_ne_nil (h : t.IsReflowed) : t.firstLine ≠ [] := by
  intro hnil
  have ht := firstLine_append_flatMap t
  rw [hnil, List.nil_append] at ht
  cases hrest : t.paragraphs.tail with
  | nil =>
    rw [hrest] at ht
    exact h.nonempty ht.symm
  | cons next rest =>
    rw [hrest] at ht
    exact h.head (ht ▸ rfl)

theorem isTrimmed_firstLine (h : t.IsReflowed) : t.firstLine.IsTrimmed :=
  h.trimmed _ (firstLine_mem_paragraphs t)

theorem exists_paragraphs_concat (h : t.IsReflowed) :
    ∃ init last, t.paragraphs = init ++ [last] ∧ last ≠ [] := by
  obtain ⟨init, last, hlast⟩ := exists_paragraphs t
  refine ⟨init, last, hlast, fun hnil ↦ ?_⟩
  have hfeed := (last_eq_nil_iff hlast).1 hnil _ (List.getLast?_eq_getLast_of_ne_nil h.nonempty)
  exact h.last (hfeed ▸ List.getLast?_eq_getLast_of_ne_nil h.nonempty)

theorem isTrimmed (h : t.IsReflowed) : t.IsTrimmed := by
  rw [isTrimmed_iff]
  constructor
  · rw [← firstLine_append_flatMap t]
    exact trimStart_append (isTrimmed_iff.1 h.isTrimmed_firstLine).1 h.firstLine_ne_nil _
  · obtain ⟨init, last, hlast, hne⟩ := h.exists_paragraphs_concat
    have htrimmed := isTrimmed_iff.1 (h.trimmed last (hlast ▸ List.mem_concat_self))
    rw [eq_flatMap_feed_append hlast]
    exact trimEnd_append htrimmed.2 hne _

/-- The only breaks of the text are between its lines. -/
theorem unbroken (h : t.IsReflowed) {line : Text} (hline : line ∈ t.paragraphs) :
    line.Unbroken := by
  intro c hc
  by_contra hbreak
  have hfeed := h.onlyFeeds c (subset_of_mem_paragraphs hline hc) (Bool.of_not_eq_false hbreak)
  exact notMem_of_mem_paragraphs hline (hfeed ▸ hc)

end IsReflowed

end Text

namespace Prose

variable {p : Prose}

/-- An empty line is a line feed, and the line behind it needs no other separator. -/
theorem text_foldl_spreadLine {line : Text} (hp : p.text ≠ []) (hline : line.IsTrimmed) :
    ((Text.spreadLine line).foldl addLine p).text = p.text ++ '\n' :: line := by
  have hbreak : (p.addLine []).text = p.text ++ ['\n'] := by
    rw [addLine, if_pos Text.isBlank_nil, text_breakParagraph, if_neg hp]
  rw [Text.spreadLine]
  split
  case isTrue hnil =>
    rw [hnil]
    exact hbreak
  case isFalse hne =>
    have hatStart : (p.addLine []).isAtStart = true := by
      rw [isAtStart_iff, hbreak, List.getLast?_concat]
      rintro _ ⟨⟩
      rfl
    rw [List.foldl_cons, List.foldl_cons, List.foldl_nil, addLine, if_neg (hline.not_isBlank hne),
      addWords, text_addAfter, if_pos hatStart, hbreak, hline, List.append_assoc,
      List.singleton_append]

theorem text_foldl_spread {lines : List Text} (hp : p.text ≠ [])
    (hlines : ∀ line ∈ lines, line.IsTrimmed) :
    ((Text.spread lines).foldl addLine p).text = p.text ++ lines.flatMap ('\n' :: ·) := by
  induction lines generalizing p with
  | nil => exact (List.append_nil p.text).symm
  | cons line rest ih =>
    obtain ⟨hline, hrest⟩ := List.forall_mem_cons.1 hlines
    have hone := text_foldl_spreadLine hp hline
    have hne : ((Text.spreadLine line).foldl addLine p).text ≠ [] := by
      rw [hone]
      exact List.append_ne_nil_of_left_ne_nil hp _
    rw [Text.spread, List.flatMap_cons, ← Text.spread, List.foldl_append, ih hne hrest, hone,
      List.flatMap_cons, List.append_assoc]

/-- What is written for a text amounts to it. -/
theorem reflow_spread {t : Text} (h : t.IsReflowed) :
    reflow t.firstLine (Text.spread t.paragraphs.tail) = some t := by
  have hseeded : (seeded t.firstLine).text = t.firstLine :=
    (text_seeded t.firstLine).trans h.isTrimmed_firstLine
  have htext : ((Text.spread t.paragraphs.tail).foldl addLine (seeded t.firstLine)).text = t := by
    rw [text_foldl_spread (hseeded.symm ▸ h.firstLine_ne_nil), hseeded,
      Text.firstLine_append_flatMap]
    exact fun line hline ↦ h.trimmed line (List.mem_of_mem_tail hline)
  rw [reflow, finish, htext, h.isTrimmed.nonBlank?_eq h.nonempty]

end Prose

/-! ## Comments with one tag -/

namespace Tag

variable {tag : Tag}

/-- The lines of a comment that has nothing but a text under a tag. -/
def written (tag : Tag) (t : Text) : List Text :=
  (tag.token ++ ' ' :: t.firstLine) :: Text.spread t.paragraphs.tail

theorem isTrimmed_token (tag : Tag) : tag.token.IsTrimmed := by
  cases tag <;> rfl

theorem token_ne_nil (tag : Tag) : tag.token ≠ [] := by
  cases tag <;> decide

/-- What is written behind the word of a tag and a space is the tag's argument. -/
theorem argument?_token_append {argument : Text} (hshape : tag.shape = .spaced)
    (h : argument.IsTrimmed) (hne : argument ≠ []) :
    tag.argument? (tag.token ++ ' ' :: argument) = some argument := by
  have htrimmed : Text.trim (tag.token ++ ' ' :: argument) = tag.token ++ ' ' :: argument :=
    tag.isTrimmed_token.append h tag.token_ne_nil hne [' ']
  rw [argument?, Marker.argument?, marker, hshape, htrimmed]
  refine Text.after?_eq_some_iff.2 ?_
  rw [List.append_assoc]
  rfl

end Tag

namespace Document

variable {tag : Tag} {t : Text}

/-- What is written for a text under a tag is one section, and no line of the text opens another. -/
theorem ofLines_written (ht : t.IsReflowed) (hshape : tag.shape = .spaced) :
    ∃ s, ofLines (tag.written t) = ⟨[], [s]⟩ ∧ s.argument? tag = some t.firstLine ∧
      s.body = Text.spread t.paragraphs.tail := by
  have hargument := Tag.argument?_token_append hshape ht.isTrimmed_firstLine ht.firstLine_ne_nil
  have hbody : ∀ line ∈ Text.spread t.paragraphs.tail, Line.isTagStart line = false := by
    intro line hline
    rcases Text.mem_of_mem_spread hline with rfl | hmem
    · rfl
    · have hline : line.trim = line := ht.trimmed line (List.mem_of_mem_tail hmem)
      rw [Line.isTagStart, hline, beq_eq_false_iff_ne]
      exact ht.noTag line hmem
  let s : Section := ⟨tag.token ++ ' ' :: t.firstLine, Text.spread t.paragraphs.tail⟩
  have hcut : (mk [] [s]).IsCut :=
    ⟨List.forall_mem_nil _, List.forall_mem_singleton.2 (Tag.isTagStart_of_argument? hargument),
      List.forall_mem_singleton.2 hbody⟩
  have hlines : (mk [] [s]).lines = tag.written t := List.append_nil _
  exact ⟨s, hlines ▸ ofLines_lines hcut, hargument, rfl⟩

end Document

open Section Prose

/-- A comment that has nothing but a text under one of three tags says nothing else. -/
theorem parse_of_split_eq_written {tag : Tag} {t comment : Text} (ht : t.IsReflowed)
    (htag : tag = .copyright ∨ tag = .returns ∨ tag = .todo)
    (hcomment : Line.split comment = tag.written t) :
    parse comment = .ok
      { copyright := if tag = .copyright then [t] else []
        returns := if tag = .returns then some t else none
        todo := if tag = .todo then [t] else [] } := by
  have hshape : tag.shape = .spaced := by
    rcases htag with rfl | rfl | rfl <;> rfl
  have hne : tag ≠ .throws ∧ tag ≠ .codeExample := by
    rcases htag with rfl | rfl | rfl <;> decide
  obtain ⟨s, hlines, hargument, hbody⟩ := Document.ofLines_written ht hshape
  have hreflow : reflow t.firstLine s.body = some t := hbody ▸ reflow_spread ht
  have hread : ∀ tag', (s.argument? tag').bind (reflow · s.body) =
      if tag' = tag then some t else none := by
    intro tag'
    split
    case isTrue heq => rw [heq, hargument, Option.bind_some, hreflow]
    case isFalse hne => rw [argument?_of_ne hargument hne, Option.bind_none]
  have hexamples : Example.ofSections [s] = [] :=
    entries_singleton_of_ne hargument hne.2.symm _
  rw [parse, parseLines, hcomment, hlines, Document.parse_singleton hargument hne.1,
    Document.record_singleton hargument (.inr htag), texts_singleton, texts_singleton,
    lastText_singleton, hread, hread, hread, hexamples]
  rcases htag with rfl | rfl | rfl <;> rfl

/-- What is written for a text is read line by line. -/
theorem Tag.split_join_written {t : Text} (ht : t.IsReflowed) (tag : Tag) :
    Line.split (Text.join ['\n'] (tag.written t)) = tag.written t := by
  refine Line.split_join ?_ ?_
  · rw [Tag.written, List.forall_mem_cons]
    constructor
    · have hfirst : Text.Unbroken (' ' :: t.firstLine) :=
        .cons rfl (ht.unbroken (Text.firstLine_mem_paragraphs t))
      exact List.forall_mem_append.2 ⟨tag.unbroken_token, hfirst⟩
    · intro line hline
      rcases Text.mem_of_mem_spread hline with rfl | hmem
      · exact Text.unbroken_nil
      · exact ht.unbroken (List.mem_of_mem_tail hmem)
  · obtain ⟨init, last, hlast, hne⟩ := ht.exists_paragraphs_concat
    have hget : t.paragraphs.getLast? = some last := hlast ▸ List.getLast?_concat
    rw [← Text.firstLine_cons_tail, List.getLast?_cons] at hget
    rw [Tag.written, List.getLast?_cons, Text.getLast?_spread, Ne, Option.some_inj]
    cases htail : t.paragraphs.tail.getLast? with
    | none => exact List.append_ne_nil_of_left_ne_nil tag.token_ne_nil _
    | some line =>
      rw [htail, Option.some_inj] at hget
      exact fun hnil ↦ hne (hget.symm.trans hnil)

/-- Which texts a comment can return, and how.  A text is returned by some comment exactly when it
is not empty, has no breaks but line feeds, has trimmed lines, neither begins nor ends with a line
feed, and no line of it but the first begins like a tag.  Every such text can be written down under
a tag, with an empty line for each line feed and then the line behind it if it is not empty; and the
comment that has these lines returns the text and says nothing else, and so it is with copyrights
and with what is to be done. -/
theorem exists_returns_iff_isReflowed (t : Text) :
    ((∃ comment r, parse comment = .ok r ∧ r.returns = some t) ↔ t.IsReflowed) ∧
    (t.IsReflowed →
      (∀ tag : Tag, Line.split (Text.join ['\n'] (tag.written t)) = tag.written t) ∧
      ∀ comment,
        (Line.split comment = Tag.written .returns t → parse comment = .ok { returns := some t }) ∧
        (Line.split comment = Tag.written .copyright t →
          parse comment = .ok { copyright := [t] }) ∧
        (Line.split comment = Tag.written .todo t → parse comment = .ok { todo := [t] })) := by
  refine ⟨⟨?_, fun ht ↦ ?_⟩, fun ht ↦ ⟨Tag.split_join_written ht, fun comment ↦ ⟨?_, ?_, ?_⟩⟩⟩
  · rintro ⟨comment, r, hparse, hreturns⟩
    obtain ⟨-, rfl⟩ := Document.parse_eq_ok_iff.1 hparse
    have hunbroken : (Document.ofText comment).Unbroken := Document.unbroken_ofText comment
    exact isReflowed_lastText .returns hunbroken.sections (Document.isCut_ofLines _).body t hreturns
  · exact ⟨_, _, parse_of_split_eq_written ht (.inr (.inl rfl))
      (Tag.split_join_written ht .returns), rfl⟩
  · exact parse_of_split_eq_written ht (.inr (.inl rfl))
  · exact parse_of_split_eq_written ht (.inl rfl)
  · exact parse_of_split_eq_written ht (.inr (.inr rfl))

/-- A text whose first line begins like a tag, and with an empty line in it. -/
theorem exists_returns_iff_isReflowed_tagged :
    let t : Text := "@a b\n\nc".toList
    let comment := "@returns @a b\n\n\nc".toList
    t.IsReflowed ∧ Line.split comment = Tag.written .returns t ∧
      parse comment = .ok { returns := some t } := by
  intro t comment
  have ht : t.IsReflowed := by decide
  have hsplit : Line.split comment = Tag.written .returns t := by decide
  exact ⟨ht, hsplit, (((exists_returns_iff_isReflowed t).2 ht).2 comment).1 hsplit⟩

end DocComment
