import DocComment.Proofs.Line.Unbroken
import DocComment.Record.Parse
import DocComment.UnknownTag

/-!
# Lines and what ends them

A text is its lines and the breaks between them: nothing is lost when it is split, and there is no
other way to split it (`Line.split_spec`).  What counts as a way to split a text is said without
the splitting (`Line.Partition`): the lines are unbroken, each of them is ended by one break, only
the last one may have none unless it is empty, and a carriage return is not cut off from the line
feed behind it.

The first line of such a partition is what comes before the first break, and its ending is the break
that the rest begins with (`Line.Partition.head_eq`), which is why there is one partition only.  So
the lines alone decide what is read off a comment, whatever breaks they end with.
-/

namespace DocComment.Line

/-- A line with the break that ends it, which the last line of a text need not have. -/
@[ext]
structure Ended where
  line : Text
  ending : Text
deriving DecidableEq, Repr

/-- The line and its ending. -/
def Ended.text (p : Ended) : Text := p.line ++ p.ending

/-- What ends a line: a break character, or a carriage return with its line feed. -/
def IsEnding (t : Text) : Prop := t = ['\r', '\n'] ∨ ∃ c ∈ breaks, t = [c]

instance : DecidablePred IsEnding := fun t ↦
  have := List.decidableBEx (t = [·]) breaks
  inferInstanceAs (Decidable (t = ['\r', '\n'] ∨ ∃ c ∈ breaks, t = [c]))

/-- A text cut into lines with their endings. -/
structure Partition (t : Text) (pieces : List Ended) : Prop where
  text_eq : pieces.flatMap Ended.text = t
  unbroken : ∀ p ∈ pieces, p.line.Unbroken
  ending : ∀ p ∈ pieces.dropLast, IsEnding p.ending
  last : ∀ p ∈ pieces.getLast?, IsEnding p.ending ∨ p.ending = [] ∧ p.line ≠ []
  /-- A carriage return in front of a line feed is no ending by itself. -/
  whole : ∀ before p after, pieces = before ++ p :: after → p.ending = ['\r'] →
    (after.flatMap Ended.text).head? ≠ some '\n'

variable {t rest : Text} {p : Ended} {pieces ps qs : List Ended}

/-! ## One piece at a time -/

namespace Partition

theorem nil : Partition [] [] where
  text_eq := rfl
  unbroken := nofun
  ending := nofun
  last := nofun
  whole before p after h := by cases before <;> cases h

/-- A partition begins with a line and goes on with a partition of the rest. -/
theorem cons_iff :
    Partition t (p :: ps) ↔
      (p.line.Unbroken ∧ (IsEnding p.ending ∨ p.ending = [] ∧ p.line ≠ [] ∧ ps = []) ∧
        (p.ending = ['\r'] → (ps.flatMap Ended.text).head? ≠ some '\n')) ∧
      t = p.text ++ ps.flatMap Ended.text ∧ Partition (ps.flatMap Ended.text) ps := by
  constructor
  · rintro ⟨rfl, hunbroken, hending, hlast, hwhole⟩
    obtain ⟨hp, hps⟩ := List.forall_mem_cons.1 hunbroken
    have hrest : Partition (ps.flatMap Ended.text) ps := by
      refine ⟨rfl, hps, ?_, ?_, fun before q after h ↦ hwhole (p :: before) q after (h ▸ rfl)⟩
      · cases ps with
        | nil => exact nofun
        | cons q ps => exact fun r hr ↦ hending r (List.mem_cons_of_mem p hr)
      · cases ps with
        | nil => exact nofun
        | cons q ps => rwa [List.getLast?_cons_cons] at hlast
    refine ⟨⟨hp, ?_, hwhole [] p ps rfl⟩, rfl, hrest⟩
    cases ps with
    | nil =>
      rcases hlast p rfl with h | ⟨hnil, hline⟩
      · exact .inl h
      · exact .inr ⟨hnil, hline, rfl⟩
    | cons q ps => exact .inl (hending p List.mem_cons_self)
  · rintro ⟨⟨hp, hend, hfeed⟩, rfl, -, hps, hending, hlast, hwhole⟩
    refine ⟨rfl, List.forall_mem_cons.2 ⟨hp, hps⟩, ?_, ?_, ?_⟩
    · cases ps with
      | nil => exact nofun
      | cons q ps =>
        have hp' : IsEnding p.ending := hend.resolve_right fun h ↦ List.cons_ne_nil q ps h.2.2
        exact List.forall_mem_cons.2 ⟨hp', hending⟩
    · cases ps with
      | nil =>
        rintro q ⟨⟩
        exact hend.imp_right fun h ↦ ⟨h.1, h.2.1⟩
      | cons q ps => rwa [List.getLast?_cons_cons]
    · rintro (_ | ⟨first, before⟩) q after h
      · cases h
        exact hfeed
      · exact hwhole before q after (List.cons.inj h).2

/-- Whether a text is cut so can be told piece by piece. -/
instance decidable : (t : Text) → (pieces : List Ended) → Decidable (Partition t pieces)
  | t, [] => decidable_of_iff (t = []) ⟨fun h ↦ h ▸ .nil, fun h ↦ h.text_eq.symm⟩
  | _, _ :: ps => have := decidable (ps.flatMap Ended.text) ps; decidable_of_iff' _ cons_iff

end Partition

/-! ## No other partition -/

theorem IsEnding.exists_eq_cons (h : IsEnding t) : ∃ c rest, isBreak c = true ∧ t = c :: rest := by
  rcases h with rfl | ⟨c, hc, rfl⟩
  · exact ⟨'\r', ['\n'], rfl, rfl⟩
  · exact ⟨c, [], List.contains_iff_mem.2 hc, rfl⟩

/-- The break that a text begins with. -/
def leadingBreak : Text → Text
  | [] => []
  | '\r' :: '\n' :: _ => ['\r', '\n']
  | c :: _ => [c]

theorem leadingBreak_append (h : IsEnding t) (hfeed : t = ['\r'] → rest.head? ≠ some '\n') :
    leadingBreak (t ++ rest) = t := by
  rcases h with rfl | ⟨c, -, rfl⟩
  · rfl
  · rw [List.singleton_append, leadingBreak]
    rintro rest' rfl rfl
    exact hfeed rfl rfl

namespace Partition

/-- The first line goes up to the first break, and this break ends it. -/
theorem head_eq (h : Partition t (p :: ps)) :
    p.line = t.takeWhile (!isBreak ·) ∧ p.ending = leadingBreak (t.dropWhile (!isBreak ·)) := by
  obtain ⟨⟨hline, hending, hfeed⟩, rfl, -⟩ := cons_iff.1 h
  have hpos : ∀ c ∈ p.line, (!isBreak c) = true := by
    intro c hc
    rw [hline c hc]
    rfl
  rw [Ended.text, List.append_assoc, List.takeWhile_append_of_pos hpos,
    List.dropWhile_append_of_pos hpos]
  rcases hending with hending | ⟨hnil, -, rfl⟩
  · obtain ⟨c, more, hbreak, hcons⟩ := hending.exists_eq_cons
    have htake : (p.ending ++ ps.flatMap Ended.text).takeWhile (!isBreak ·) = [] := by
      simp [hcons, hbreak]
    have hdrop : (p.ending ++ ps.flatMap Ended.text).dropWhile (!isBreak ·) =
        p.ending ++ ps.flatMap Ended.text := by
      simp [hcons, hbreak]
    rw [htake, hdrop, List.append_nil, leadingBreak_append hending hfeed]
    exact ⟨rfl, rfl⟩
  · rw [hnil]
    exact ⟨(List.append_nil _).symm, rfl⟩

theorem ne_nil (h : Partition t (p :: ps)) : t ≠ [] := by
  obtain ⟨⟨-, hending, -⟩, rfl, -⟩ := cons_iff.1 h
  rw [Ended.text]
  rcases hending with hending | ⟨-, hline, -⟩
  · obtain ⟨c, more, -, hcons⟩ := hending.exists_eq_cons
    simp [hcons]
  · simp [hline]

/-- A text has one partition only. -/
theorem unique (h : Partition t ps) (h' : Partition t qs) : ps = qs := by
  induction ps generalizing t qs with
  | nil =>
    cases qs with
    | nil => rfl
    | cons q qs => exact absurd h.text_eq.symm h'.ne_nil
  | cons p ps ih =>
    cases qs with
    | nil => exact absurd h'.text_eq.symm h.ne_nil
    | cons q qs =>
      have hpq : p = q := by
        obtain ⟨hline, hending⟩ := h.head_eq
        obtain ⟨hline', hending'⟩ := h'.head_eq
        exact Ended.ext (hline.trans hline'.symm) (hending.trans hending'.symm)
      obtain ⟨-, htext, hps⟩ := cons_iff.1 h
      obtain ⟨-, htext', hqs⟩ := cons_iff.1 h'
      rw [htext, hpq, List.append_cancel_left_eq] at htext'
      rw [hpq, ih hps (htext' ▸ hqs)]

end Partition

/-! ## The lines of a text -/

/-- The lines of a text are those of a partition. -/
theorem exists_partition (t : Text) :
    ∃ pieces, Partition t pieces ∧ pieces.map Ended.line = split t := by
  -- the text is scanned from behind: a character that is no break joins the first piece of the rest
  induction t using split.induct with
  | case1 => exact ⟨[], .nil, rfl⟩
  | case2 rest ih =>
    obtain ⟨ps, hps, hlines⟩ := ih
    refine ⟨⟨[], ['\r', '\n']⟩ :: ps, ?_, ?_⟩
    · rw [Partition.cons_iff, hps.text_eq]
      exact ⟨⟨Text.unbroken_nil, .inl (.inl rfl), by simp⟩, rfl, hps⟩
    · rw [split, List.map_cons, hlines]
  | case3 c rest hreturn hbreak ih =>
    obtain ⟨ps, hps, hlines⟩ := ih
    refine ⟨⟨[], [c]⟩ :: ps, ?_, ?_⟩
    · rw [Partition.cons_iff, hps.text_eq]
      refine ⟨⟨Text.unbroken_nil, .inl (.inr ⟨c, List.contains_iff_mem.1 hbreak, rfl⟩), ?_⟩, rfl,
        hps⟩
      rintro ⟨⟩ hhead
      obtain ⟨rest', rfl⟩ := List.head?_eq_some_iff.1 hhead
      exact hreturn rest' rfl rfl
    · rw [split.eq_3 c rest hreturn, if_pos hbreak, List.map_cons, hlines]
  | case4 c rest hreturn hbreak hrest ih =>
    obtain ⟨ps, hps, hlines⟩ := ih
    rw [hrest, List.map_eq_nil_iff] at hlines
    subst hlines
    obtain rfl : rest = [] := hps.text_eq.symm
    refine ⟨[⟨[c], []⟩], ?_, ?_⟩
    · rw [Partition.cons_iff]
      exact ⟨⟨.cons (Bool.eq_false_iff.2 hbreak) Text.unbroken_nil,
        .inr ⟨rfl, List.cons_ne_nil c [], rfl⟩, by simp⟩, rfl, .nil⟩
    · rw [split.eq_3 c [] hreturn, if_neg hbreak]
      rfl
  | case5 c rest hreturn hbreak first more hrest ih =>
    obtain ⟨ps, hps, hlines⟩ := ih
    rw [hrest] at hlines
    obtain ⟨p, ps, rfl, rfl, rfl⟩ := List.map_eq_cons_iff.1 hlines
    obtain ⟨⟨hline, hending, hfeed⟩, rfl, hps'⟩ := Partition.cons_iff.1 hps
    refine ⟨⟨c :: p.line, p.ending⟩ :: ps, ?_, ?_⟩
    · rw [Partition.cons_iff]
      exact ⟨⟨.cons (Bool.eq_false_iff.2 hbreak) hline,
        hending.imp_right fun h ↦ ⟨h.1, List.cons_ne_nil c p.line, h.2.2⟩, hfeed⟩, rfl, hps'⟩
    · rw [split.eq_3 c _ hreturn, if_neg hbreak, hrest]
      rfl

theorem Partition.split_eq (h : Partition t ps) : split t = ps.map Ended.line := by
  obtain ⟨qs, hqs, hlines⟩ := exists_partition t
  rw [← hlines, hqs.unique h]

/-- A line feed ends an unbroken line, and the rest is split by itself. -/
theorem split_append_feed {line : Text} (h : line.Unbroken) (t : Text) :
    split (line ++ '\n' :: t) = line :: split t := by
  obtain ⟨ps, hps, hlines⟩ := exists_partition t
  have hpartition : Partition (line ++ '\n' :: t) (⟨line, ['\n']⟩ :: ps) := by
    rw [Partition.cons_iff, hps.text_eq, Ended.text, List.append_assoc]
    exact ⟨⟨h, .inl (.inr ⟨'\n', List.mem_cons_self, rfl⟩), nofun⟩, rfl, hps⟩
  rw [hpartition.split_eq, List.map_cons, hlines]

/-- Unbroken lines that are joined by line feeds, when the last one is not empty. -/
theorem split_join {lines : List Text} (h : ∀ line ∈ lines, line.Unbroken)
    (hlast : lines.getLast? ≠ some []) : split (Text.join ['\n'] lines) = lines := by
  induction lines with
  | nil => rfl
  | cons line rest ih =>
    obtain ⟨hline, hrest⟩ := List.forall_mem_cons.1 h
    cases rest with
    | nil =>
      have hne : line ≠ [] := fun hnil ↦ hlast (congrArg some hnil)
      have hpartition : Partition line [⟨line, []⟩] :=
        Partition.cons_iff.2
          ⟨⟨hline, .inr ⟨rfl, hne, rfl⟩, nofun⟩, by simp [Ended.text], .nil⟩
      rw [Text.join, List.intercalate_singleton, hpartition.split_eq]
      rfl
    | cons next rest =>
      rw [List.getLast?_cons_cons] at hlast
      rw [Text.join, List.intercalate_cons_cons, List.append_assoc, List.singleton_append,
        split_append_feed hline, ← Text.join, ih hrest hlast]

/-- Unbroken lines that each end with a line feed. -/
theorem partition_flatMap_feed {lines : List Text} (h : ∀ line ∈ lines, line.Unbroken) :
    Partition (lines.flatMap (· ++ ['\n'])) (lines.map (⟨·, ['\n']⟩)) := by
  induction lines with
  | nil => exact .nil
  | cons line lines ih =>
    obtain ⟨hline, hlines⟩ := List.forall_mem_cons.1 h
    rw [List.map_cons, Partition.cons_iff, (ih hlines).text_eq]
    exact ⟨⟨hline, .inl (.inr ⟨'\n', List.mem_cons_self, rfl⟩), nofun⟩, rfl, ih hlines⟩

/-- Splitting a text loses nothing and depends on no convention.  The lines of a text are those of
its only partition; unbroken lines that each end with a line feed split into themselves; and
comments with the same lines have the same reading and the same unknown tags, whatever ends the
lines. -/
theorem split_spec (t : Text) :
    (∃ pieces, Partition t pieces ∧ pieces.map Ended.line = split t ∧
      ∀ others, Partition t others → others = pieces) ∧
    (∀ lines : List Text, (∀ line ∈ lines, line.Unbroken) →
      split (lines.flatMap (· ++ ['\n'])) = lines) ∧
    ∀ s ps qs, Partition t ps → Partition s qs → ps.map Ended.line = qs.map Ended.line →
      parse t = parse s ∧ UnknownTag.ofLines (split t) = UnknownTag.ofLines (split s) := by
  refine ⟨?_, ?_, ?_⟩
  · obtain ⟨pieces, hpieces, hlines⟩ := exists_partition t
    exact ⟨pieces, hpieces, hlines, fun others hothers ↦ hothers.unique hpieces⟩
  · intro lines hlines
    rw [(partition_flatMap_feed hlines).split_eq, List.map_map]
    exact List.map_id lines
  · intro s ps qs hps hqs hlines
    have hsplit : split t = split s := by rw [hps.split_eq, hqs.split_eq, hlines]
    rw [parse, parse, hsplit]
    exact ⟨rfl, rfl⟩

/-- Four lines with all kinds of endings, and with line feeds only. -/
theorem split_spec_mixed :
    let a := "@since 1\r\nx\u2028\r@parm".toList
    let lines : List Text := ["@since 1".toList, ['x'], [], "@parm".toList]
    let b := lines.flatMap (· ++ ['\n'])
    let ps : List Ended :=
      [⟨"@since 1".toList, ['\r', '\n']⟩, ⟨['x'], ['\u2028']⟩, ⟨[], ['\r']⟩, ⟨"@parm".toList, []⟩]
    let qs : List Ended := lines.map (⟨·, ['\n']⟩)
    (∀ line ∈ lines, line.Unbroken) ∧ split b = lines ∧ Partition a ps ∧ Partition b qs ∧
      ps.map Ended.line = qs.map Ended.line ∧ parse a = parse b ∧
      parse b = .ok { since := some "1 x".toList } ∧
      UnknownTag.ofLines (split a) = UnknownTag.ofLines (split b) := by
  intro a lines b ps qs
  have hlines : ∀ line ∈ lines, line.Unbroken := by decide
  have hps : Partition a ps := by decide
  have hqs : Partition b qs := partition_flatMap_feed hlines
  obtain ⟨-, hfeeds, hreadings⟩ := split_spec a
  obtain ⟨hparse, hunknown⟩ := hreadings b ps qs hps hqs rfl
  exact ⟨hlines, hfeeds lines hlines, hps, hqs, rfl, hparse, by decide, hunknown⟩

end DocComment.Line
