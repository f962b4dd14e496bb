import DocComment.Proofs.Document.Append
import DocComment.Proofs.Text.Words
import DocComment.UnknownTag

/-!
# Markers and unknown tags

No word of a tag is the beginning of another one (`Tag.eq_of_prefix_token`), so that a line has one
meaning at most: two markers never accept the same line (`Tag.eq_of_argument?`).

The list of unknown tags and the markers agree on every line of a comment
(`UnknownTag.ofLines_spec`).  A tag start that no marker accepts is listed unless its first word is
the word of a tag, and then it is a tag whose word alone is not enough: a line that begins with the
word of any other tag is accepted.
-/

namespace DocComment

/-! ## One meaning at most -/

namespace Tag

variable {tag tag' : Tag} {line argument argument' : Text}

/-- There are finitely many tags to look at. -/
instance decidableForall (P : Tag → Prop) [DecidablePred P] : Decidable (∀ tag, P tag) :=
  decidable_of_iff (∀ tag ∈ all, P tag) ⟨fun h tag ↦ h tag (mem_all tag), fun h tag _ ↦ h tag⟩

/-- No word of a tag is the beginning of another one. -/
theorem eq_of_prefix_token (h : tag.token <+: tag'.token) : tag = tag' := by
  have hall : ∀ a b : Tag, a.token.isPrefixOf b.token = true → a = b := by decide
  exact hall tag tag' (List.isPrefixOf_iff_prefix.2 h)

theorem token_prefix_trim (h : tag.argument? line = some argument) : tag.token <+: line.trim := by
  obtain ⟨rest, hrest⟩ := Marker.eq_token_append_of_argument? h
  exact ⟨rest, hrest.symm⟩

/-- Two markers never accept the same line. -/
theorem eq_of_argument? (h : tag.argument? line = some argument)
    (h' : tag'.argument? line = some argument') : tag = tag' := by
  rcases List.prefix_or_prefix_of_prefix (token_prefix_trim h) (token_prefix_trim h') with hp | hp
  · exact eq_of_prefix_token hp
  · exact (eq_of_prefix_token hp).symm

/-- A tag that nothing has to follow is accepted wherever its word comes first. -/
theorem exists_argument?_of_bare (hshape : tag.shape = .bare) (h : tag.token <+: line.trim) :
    ∃ argument, tag.argument? line = some argument := by
  obtain ⟨rest, hrest⟩ := h
  refine ⟨rest, ?_⟩
  rw [argument?, Marker.argument?, marker, hshape]
  exact Text.after?_eq_some_iff.2 hrest.symm

theorem ofToken?_eq_none_iff {word : Text} :
    ofToken? word = none ↔ ∀ tag : Tag, tag.token ≠ word := by
  simp [ofToken?, mem_all]

end Tag

/-- A tag start is not blank. -/
theorem Line.isBlank_of_isTagStart {line : Text} (h : isTagStart line = true) :
    line.isBlank = false := by
  refine Bool.eq_false_iff.2 fun hblank ↦ ?_
  rw [isTagStart_of_isBlank hblank] at h
  cases h

/-! ## Unknown tags -/

namespace UnknownTag

variable {line token : Text} {lines : List Text} {i : Nat}

theorem isClaimed_eq_false_iff :
    isClaimed line = false ↔
      (∀ tag : Tag, tag.argument? line = none) ∧ ∀ tag : Tag, tag.token ≠ leadingToken line := by
  rw [isClaimed, Bool.or_eq_false_iff, Option.isSome_eq_false_iff, Option.isNone_iff_eq_none,
    Tag.ofToken?_eq_none_iff, and_comm, List.any_eq_false]
  simp [Tag.mem_all]

/-- The first word of a tag start. -/
theorem head?_words_of_isTagStart (h : Line.isTagStart line = true) :
    line.words.head? = some (leadingToken line) := by
  rw [leadingToken, List.headD_eq_head?_getD, Text.head?_words (Line.isBlank_of_isTagStart h)]
  rfl

/-- The first word of a tag start is what its trimmed text begins with. -/
theorem leadingToken_prefix_trim (h : Line.isTagStart line = true) :
    leadingToken line <+: line.trim := by
  have hword := Text.head?_words (Line.isBlank_of_isTagStart h)
  rw [head?_words_of_isTagStart h, Option.some_inj] at hword
  rw [hword]
  exact Text.firstWord_trimStart_prefix line

/-- The tag starts that nobody claims are listed, with their first words. -/
theorem mem_ofLines_iff {u : UnknownTag} :
    u ∈ ofLines lines ↔
      ∃ line, lines[u.line]? = some line ∧ Line.isTagStart line = true ∧
        isClaimed line = false ∧ leadingToken line = u.token := by
  rw [ofLines, List.mem_filterMap]
  constructor
  · rintro ⟨⟨line, i⟩, hmem, hunknown⟩
    simp only [Option.ite_none_right_eq_some, Bool.and_eq_true, Bool.not_eq_true'] at hunknown
    obtain ⟨⟨hstart, hclaimed⟩, ⟨⟩⟩ := hunknown
    exact ⟨line, List.mem_zipIdx_iff_getElem?.1 hmem, hstart, hclaimed, rfl⟩
  · rintro ⟨line, hline, hstart, hclaimed, htoken⟩
    refine ⟨(line, u.line), List.mem_zipIdx_iff_getElem?.2 hline, ?_⟩
    simp [hstart, hclaimed, htoken]

/-- A line is listed, with its first word, exactly when it is a tag start that no marker accepts and
its first word is not the word of a tag. -/
theorem mem_ofLines_iff_words (hline : lines[i]? = some line) :
    ⟨i, token⟩ ∈ ofLines lines ↔
      Line.isTagStart line = true ∧ (∀ tag : Tag, tag.argument? line = none) ∧
        line.words.head? = some token ∧ ∀ tag : Tag, tag.token ≠ token := by
  rw [mem_ofLines_iff]
  simp only [hline, Option.some_inj, exists_eq_left', isClaimed_eq_false_iff]
  constructor
  · rintro ⟨hstart, ⟨hmarkers, hwords⟩, rfl⟩
    exact ⟨hstart, hmarkers, head?_words_of_isTagStart hstart, hwords⟩
  · rintro ⟨hstart, hmarkers, hfirst, hwords⟩
    rw [head?_words_of_isTagStart hstart, Option.some_inj] at hfirst
    rw [hfirst]
    exact ⟨hstart, ⟨hmarkers, hwords⟩, rfl⟩

/-- A tag start that is claimed though no marker accepts it has the word of a tag whose word alone
is not enough. -/
theorem exists_tag_of_isClaimed (hstart : Line.isTagStart line = true)
    (hmarkers : ∀ tag : Tag, tag.argument? line = none) (hclaimed : isClaimed line = true) :
    ∃ tag : Tag, line.words.head? = some tag.token ∧
      (tag.shape = .wholeLine ∨ tag.shape = .spaced) := by
  obtain ⟨tag, htag⟩ : ∃ tag : Tag, tag.token = leadingToken line := by
    by_contra hnone
    rw [isClaimed_eq_false_iff.2 ⟨hmarkers, not_exists.1 hnone⟩] at hclaimed
    cases hclaimed
  refine ⟨tag, htag ▸ head?_words_of_isTagStart hstart, ?_⟩
  cases hshape : tag.shape with
  | wholeLine => exact .inl rfl
  | spaced => exact .inr rfl
  | bare =>
    obtain ⟨argument, hargument⟩ :=
      Tag.exists_argument?_of_bare hshape (htag ▸ leadingToken_prefix_trim hstart)
    rw [hmarkers tag] at hargument
    cases hargument

/-- The lines are listed in order, and none is listed twice. -/
theorem pairwise_line_ofLines (lines : List Text) :
    ((ofLines lines).map UnknownTag.line).Pairwise (· < ·) := by
  have hindices : (lines.zipIdx.map Prod.snd).Pairwise (· < ·) := by
    rw [List.zipIdx_map_snd]
    exact List.pairwise_lt_range'
  rw [List.pairwise_map] at hindices ⊢
  rw [ofLines, List.pairwise_filterMap]
  refine hindices.imp ?_
  rintro ⟨first, i⟩ ⟨second, j⟩ hlt u hu v hv
  obtain ⟨-, ⟨⟩⟩ := Option.ite_none_right_eq_some.1 hu
  obtain ⟨-, ⟨⟩⟩ := Option.ite_none_right_eq_some.1 hv
  exact hlt

/-- What the unknown tags of a comment are.  On every line at most one marker matches, and only on
tag starts; a line is listed, with its first word, exactly when it is a tag start, no marker accepts
it and its first word is not the word of a tag; and where neither a marker accepts a tag start nor
the list has it, its first word belongs to a tag that has to stand alone or before a space.  Each
line is listed once, in order. -/
theorem ofLines_spec (comment : Text) :
    (∀ i line, (Line.split comment)[i]? = some line →
      (∀ tag tag' : Tag, (tag.argument? line).isSome → (tag'.argument? line).isSome → tag = tag') ∧
      (∀ tag : Tag, (tag.argument? line).isSome → Line.isTagStart line = true) ∧
      (∀ token, ⟨i, token⟩ ∈ ofLines (Line.split comment) ↔
        Line.isTagStart line = true ∧ (∀ tag : Tag, tag.argument? line = none) ∧
          line.words.head? = some token ∧ ∀ tag : Tag, tag.token ≠ token) ∧
      (Line.isTagStart line = true → (∀ tag : Tag, tag.argument? line = none) →
        (∀ token, ⟨i, token⟩ ∉ ofLines (Line.split comment)) →
        ∃ tag : Tag, line.words.head? = some tag.token ∧
          (tag.shape = .wholeLine ∨ tag.shape = .spaced))) ∧
    (∀ u ∈ ofLines (Line.split comment), u.line < (Line.split comment).length) ∧
    ((ofLines (Line.split comment)).map UnknownTag.line).Pairwise (· < ·) := by
  refine ⟨fun i line hline ↦ ⟨?_, ?_, fun token ↦ mem_ofLines_iff_words hline, ?_⟩, ?_,
    pairwise_line_ofLines _⟩
  · intro tag tag' h h'
    obtain ⟨argument, hargument⟩ := Option.isSome_iff_exists.1 h
    obtain ⟨argument', hargument'⟩ := Option.isSome_iff_exists.1 h'
    exact Tag.eq_of_argument? hargument hargument'
  · intro tag h
    obtain ⟨argument, hargument⟩ := Option.isSome_iff_exists.1 h
    exact Tag.isTagStart_of_argument? hargument
  · intro hstart hmarkers hunlisted
    refine exists_tag_of_isClaimed hstart hmarkers ?_
    by_contra hfree
    exact hunlisted _ (mem_ofLines_iff.2 ⟨line, hline, hstart, Bool.eq_false_iff.2 hfree, rfl⟩)
  · intro u hu
    obtain ⟨line, hline, -⟩ := mem_ofLines_iff.1 hu
    exact (List.getElem?_eq_some_iff.1 hline).1

/-- A misspelt tag is listed; a parameter with a tab behind its tag is neither listed nor read. -/
theorem ofLines_spec_tab :
    let comment := "Sum.\n@parm x\n  @param\ty\n@sinceX".toList
    let line : Text := "  @param\ty".toList
    (⟨1, "@parm".toList⟩ ∈ ofLines (Line.split comment)) ∧
      (Line.split comment)[2]? = some line ∧ Line.isTagStart line = true ∧
      (∀ tag : Tag, tag.argument? line = none) ∧
      (∀ token, ⟨2, token⟩ ∉ ofLines (Line.split comment)) ∧
      ∃ tag : Tag, line.words.head? = some tag.token ∧
        (tag.shape = .wholeLine ∨ tag.shape = .spaced) := by
  intro comment line
  have hmisspelt : (Line.split comment)[1]? = some "@parm x".toList := by decide
  have hline : (Line.split comment)[2]? = some line := by decide
  have hstart : Line.isTagStart line = true := by decide
  have hmarkers : ∀ tag : Tag, tag.argument? line = none := by decide
  have hunlisted : ∀ token, ⟨2, token⟩ ∉ ofLines (Line.split comment) := by
    have hlist : ofLines (Line.split comment) = [⟨1, "@parm".toList⟩] := by decide
    simp [hlist]
  obtain ⟨hlines, -, -⟩ := ofLines_spec comment
  obtain ⟨-, -, hlisted, -⟩ := hlines 1 _ hmisspelt
  obtain ⟨-, -, -, hword⟩ := hlines 2 line hline
  exact ⟨(hlisted _).2 (by decide), hline, hstart, hmarkers, hunlisted,
    hword hstart hmarkers hunlisted⟩

end UnknownTag

end DocComment
