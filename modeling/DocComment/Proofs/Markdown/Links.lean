import DocComment.Proofs.Anchors.Slug
import DocComment.Proofs.Document.Rearrange
import DocComment.Proofs.Markdown.Lines

/-!
# Links of an index

A link of the index leads to the unit when the anchor in it is the one that the heading of the unit
gets as the headings of the page are numbered in page order (`unitAnchors`).  The index counts the
headings that it knows of: its own, the names of the units and the titles of their sections.  A page
can have more, since a line of a loose text that looks like a heading is one.  So a link misses its
unit as soon as such a line, above the unit, shares the slug of the unit's name, and this is the
only way to miss it (`unitAnchor_eq_link_iff`).

Both anchors have the slug of the name and differ at most in the number behind it, which counts the
headings with this slug; so the theorem is about two counts, and these differ by the loose headings
(`countP_titles_placedUnits`, `below_pageHeadingsAbove_eq_iff`).
-/

namespace DocComment

/-! ## Anchors on one line -/

namespace Anchors

theorem isSlug_below (above : List Text) (heading : Text) : Slug.IsSlug (below above heading) := by
  rw [below_eq_numbered]
  exact isSlug_numbered (Slug.isSlug_ofHeading heading) _

theorem feed_notMem_below (above : List Text) (heading : Text) : '\n' ∉ below above heading := by
  intro hmem
  exact absurd (isSlug_below above heading '\n' hmem) (by decide +kernel)

theorem numbered_inj {slug : Text} {m n : Nat} : numbered slug m = numbered slug n ↔ m = n := by
  refine ⟨fun h ↦ ?_, congrArg (numbered slug)⟩
  rcases numbered_eq_numbered_iff.1 h with ⟨-, hmn⟩ | ⟨-, hn, hslug⟩ | ⟨-, hm, hslug⟩
  · exact hmn
  · exact absurd hslug.symm (numbered_ne_self slug hn)
  · exact absurd hslug.symm (numbered_ne_self slug hm)

/-- A heading has the same anchor below two rows of headings when as many share its slug. -/
theorem below_eq_below_iff {above above' : List Text} {heading : Text} :
    below above heading = below above' heading ↔
      above.countP (Slug.ofHeading · = Slug.ofHeading heading) =
        above'.countP (Slug.ofHeading · = Slug.ofHeading heading) := by
  rw [below_eq_numbered, below_eq_numbered, numbered_inj]

end Anchors

theorem indexItem_inj {title anchor anchor' : Text} :
    indexItem title anchor = indexItem title anchor' ↔ anchor = anchor' := by
  unfold indexItem
  rw [List.append_left_inj, List.append_right_inj]

namespace Markdown

/-! ## Numbering the headings of a page -/

/-- The headings of units with their anchors, when all headings among the lines are numbered. -/
def unitAnchors (a : Anchors) : List PageLine → List (Text × Text)
  | [] => []
  | l :: rest =>
    match l.title? with
    | none => unitAnchors a rest
    | some title =>
      if l.role = .unitHeading then (l.text, a.anchor title) :: unitAnchors (a.register title) rest
      else unitAnchors (a.register title) rest

theorem unitAnchors_append (a : Anchors) (ls more : List PageLine) :
    unitAnchors a (ls ++ more) =
      unitAnchors a ls ++ unitAnchors (a.registerAll (ls.filterMap PageLine.title?)) more := by
  induction ls generalizing a with
  | nil => rfl
  | cons l rest ih =>
    rw [List.cons_append, unitAnchors, unitAnchors]
    cases htitle : l.title? with
    | none =>
      rw [List.filterMap_cons_none htitle]
      exact ih a
    | some title =>
      rw [List.filterMap_cons_some htitle, Anchors.registerAll_cons]
      dsimp only
      rw [ih (a.register title)]
      split <;> rfl

theorem unitAnchors_eq_nil {ls : List PageLine} (h : ∀ l ∈ ls, l.role ≠ .unitHeading)
    (a : Anchors) : unitAnchors a ls = [] := by
  induction ls generalizing a with
  | nil => rfl
  | cons l rest ih =>
    obtain ⟨hl, hrest⟩ := List.forall_mem_cons.1 h
    rw [unitAnchors]
    cases l.title? with
    | none => exact ih hrest a
    | some title =>
      dsimp only
      rw [if_neg hl]
      exact ih hrest (a.register title)

/-! ## Units -/

theorem role_lines {ps : List Placed} (h : ∀ p ∈ ps, p.role ≠ .unitHeading) :
    ∀ l ∈ ps.flatMap Placed.lines, l.role ≠ .unitHeading := by
  intro l hl
  obtain ⟨p, hp, hl⟩ := List.mem_flatMap.1 hl
  obtain ⟨t, -, rfl⟩ := List.mem_map.1 hl
  exact h p hp

theorem role_plain (ps : List Piece) : ∀ p ∈ Placed.plain ps, p.role ≠ .unitHeading := by
  intro p hp
  obtain ⟨q, -, rfl⟩ := List.mem_map.1 hp
  simp

theorem role_placedExample (codeLang : Text) (e : Example) :
    ∀ p ∈ placedExample codeLang e, p.role ≠ .unitHeading := by
  rw [placedExample, List.forall_mem_append]
  refine ⟨role_plain _, ?_⟩
  simp

theorem role_placedRecord (o : Options) (record : Option Record) :
    ∀ p ∈ placedRecord o record, p.role ≠ .unitHeading := by
  rw [placedRecord]
  split
  case isTrue => exact role_plain _
  case isFalse =>
    cases record with
    | none => exact List.forall_mem_nil _
    | some r =>
      rw [Option.map_some, Option.getD_some, placedBody, List.forall_mem_append,
        List.forall_mem_append]
      refine ⟨⟨role_plain _, ?_⟩, role_plain _⟩
      rw [placedExamples]
      split
      case isTrue => exact List.forall_mem_nil _
      case isFalse =>
        rw [List.forall_mem_cons]
        refine ⟨by simp, fun p hp ↦ ?_⟩
        obtain ⟨e, -, hp⟩ := List.mem_flatMap.1 hp
        exact role_placedExample o.codeLang e p hp

theorem titles_placedRecord (o : Options) (record : Option Record) :
    Placed.titles (placedRecord o record) =
      (record.map fun r ↦ Placed.titles (placedBody o r)).getD [] := by
  have hempty : Placed.titles (Placed.plain [.text []]) = [] := by decide
  cases record with
  | none => exact hempty
  | some r =>
    rw [placedRecord, Option.map_some, Option.map_some, Option.getD_some, Option.getD_some]
    split
    case isTrue h =>
      rw [List.isEmpty_iff.1 h]
      exact hempty
    case isFalse => rfl

theorem title?_unitHeading (name : Text) :
    PageLine.title? ⟨.unitHeading, "### ".toList ++ name⟩ = some name :=
  headingTitle?_hashes (n := 3) (by decide) (by decide) name

/-- The first line of a unit is its heading, and nothing below it is the heading of a unit. -/
theorem lines_placedUnit (o : Options) {u : DocumentedUnit} (h : '\n' ∉ u.name) :
    ∃ rest : List Placed, (∀ p ∈ rest, p.role ≠ .unitHeading) ∧
      Placed.titles rest = (u.record.map fun r ↦ Placed.titles (placedBody o r)).getD [] ∧
      (placedUnit o u).flatMap Placed.lines =
        ⟨.unitHeading, "### ".toList ++ u.name⟩ :: rest.flatMap Placed.lines := by
  refine ⟨Placed.plain [.text [], .text ('_' :: u.kind.word ++ ['_']), .text []] ++
    placedRecord o u.record, ?_, ?_, ?_⟩
  · rw [List.forall_mem_append]
    exact ⟨role_plain _, role_placedRecord o u.record⟩
  · have hkind : pieceHeadings [.text [], .text ('_' :: u.kind.word ++ ['_']), .text []] = [] := by
      cases u.kind <;> decide
    rw [Placed.titles_append, Placed.titles_plain, hkind, titles_placedRecord]
    rfl
  · have hline : '\n' ∉ "### ".toList ++ u.name := List.not_mem_append (by decide) h
    rw [placedUnit, List.cons_append, List.flatMap_cons, Placed.lines, Piece.toText_text,
      Text.paragraphs_of_notMem hline]
    rfl

theorem titles_placedUnit (o : Options) {u : DocumentedUnit} (h : '\n' ∉ u.name) :
    Placed.titles (placedUnit o u) =
      u.name :: (u.record.map fun r ↦ Placed.titles (placedBody o r)).getD [] := by
  obtain ⟨rest, -, htitles, hlines⟩ := lines_placedUnit o h
  rw [← htitles, Placed.titles, hlines, List.filterMap_cons_some (title?_unitHeading u.name)]
  rfl

theorem unitAnchors_placedUnit (o : Options) {u : DocumentedUnit} (h : '\n' ∉ u.name)
    (a : Anchors) :
    unitAnchors a ((placedUnit o u).flatMap Placed.lines) =
      [("### ".toList ++ u.name, a.anchor u.name)] := by
  obtain ⟨rest, hroles, -, hlines⟩ := lines_placedUnit o h
  rw [hlines, unitAnchors, title?_unitHeading]
  dsimp only
  rw [if_pos rfl, unitAnchors_eq_nil (role_lines hroles)]

/-- Every unit has the anchor that comes of the headings in the units before. -/
theorem unitAnchors_placedUnits (o : Options) {us : List DocumentedUnit}
    (h : ∀ u ∈ us, '\n' ∉ u.name) (a : Anchors) :
    unitAnchors a ((us.flatMap (placedUnit o)).flatMap Placed.lines) =
      us.mapIdx fun i u ↦
        ("### ".toList ++ u.name,
          (a.registerAll (Placed.titles ((us.take i).flatMap (placedUnit o)))).anchor u.name) := by
  induction us generalizing a with
  | nil => rfl
  | cons u rest ih =>
    obtain ⟨hu, hrest⟩ := List.forall_mem_cons.1 h
    rw [List.flatMap_cons, List.flatMap_append, unitAnchors_append, unitAnchors_placedUnit o hu,
      ih hrest, List.mapIdx_cons, List.singleton_append]
    simp only [List.take_succ_cons, List.flatMap_cons, Placed.titles_append,
      Anchors.registerAll_append]
    rfl

/-- The headings in some units are those that the index counts and those of the loose texts. -/
theorem countP_titles_placedUnits (o : Options) {us : List DocumentedUnit}
    (hnames : ∀ u ∈ us, '\n' ∉ u.name) (hrecords : ∀ u ∈ us, ∀ r ∈ u.record, r.WellFormed)
    (p : Text → Bool) :
    (Placed.titles (us.flatMap (placedUnit o))).countP p =
      (us.flatMap fun u ↦ u.name :: (u.record.map sectionTitles).getD []).countP p +
        (us.flatMap fun u ↦ (u.record.map looseTitles).getD []).countP p := by
  induction us with
  | nil => rfl
  | cons u rest ih =>
    obtain ⟨hname, hnames⟩ := List.forall_mem_cons.1 hnames
    obtain ⟨hrecord, hrecords⟩ := List.forall_mem_cons.1 hrecords
    have hunit : (Placed.titles (placedUnit o u)).countP p =
        (u.name :: (u.record.map sectionTitles).getD []).countP p +
          ((u.record.map looseTitles).getD []).countP p := by
      rw [titles_placedUnit o hname, List.countP_cons, List.countP_cons]
      cases hr : u.record with
      | none => rfl
      | some r =>
        simp only [Option.map_some, Option.getD_some]
        rw [countP_titles_placedBody o (hrecord r hr)]
        omega
    simp only [List.flatMap_cons, Placed.titles_append, List.countP_append]
    rw [hunit, ih hnames hrecords]
    omega

theorem countP_looseTitles_eq_zero_iff {us : List DocumentedUnit} {slug : Text} :
    (us.flatMap fun u ↦ (u.record.map looseTitles).getD []).countP (Slug.ofHeading · = slug) = 0 ↔
      ∀ u ∈ us, ∀ r ∈ u.record, ∀ title ∈ looseTitles r, Slug.ofHeading title ≠ slug := by
  rw [List.countP_eq_zero]
  simp only [decide_eq_true_eq]
  constructor
  · intro h u hu r hr title htitle
    apply h title
    rw [List.mem_flatMap]
    refine ⟨u, hu, ?_⟩
    rwa [Option.mem_def.1 hr]
  · intro h title htitle
    obtain ⟨u, hu, htitle⟩ := List.mem_flatMap.1 htitle
    cases hr : u.record with
    | none =>
      rw [hr] at htitle
      cases htitle
    | some r =>
      rw [hr] at htitle
      exact h u hu r hr title htitle

/-- The headings on the page above the block of a unit: like `headingsAbove`, and those of loose
texts. -/
def pageHeadingsAbove (o : Options) (visible : List DocumentedUnit) (i : Nat) : List Text :=
  indexTitle :: Placed.titles ((visible.take i).flatMap (placedUnit o))

/-- Both anchors count the headings with a slug, and only the loose ones are not in both. -/
theorem below_pageHeadingsAbove_eq_iff (o : Options) {visible : List DocumentedUnit}
    (hnames : ∀ u ∈ visible, '\n' ∉ u.name)
    (hrecords : ∀ u ∈ visible, ∀ r ∈ u.record, r.WellFormed) (i : Nat) (heading : Text) :
    Anchors.below (pageHeadingsAbove o visible i) heading =
        Anchors.below (headingsAbove visible i) heading ↔
      ∀ u ∈ visible.take i, ∀ r ∈ u.record, ∀ title ∈ looseTitles r,
        Slug.ofHeading title ≠ Slug.ofHeading heading := by
  have habove : ∀ u ∈ visible.take i, u ∈ visible := fun _ ↦ List.mem_of_mem_take
  have hcount := countP_titles_placedUnits o (fun u hu ↦ hnames u (habove u hu))
    (fun u hu ↦ hrecords u (habove u hu)) (Slug.ofHeading · = Slug.ofHeading heading)
  rw [Anchors.below_eq_below_iff, pageHeadingsAbove, headingsAbove, List.countP_cons,
    List.countP_cons, hcount, ← countP_looseTitles_eq_zero_iff, indexTitle]
  omega

/-! ## The index -/

/-- The texts of the lines of an index are on one line each, if the names are. -/
theorem feed_notMem_indexTexts {visible : List DocumentedUnit}
    (h : ∀ u ∈ visible, '\n' ∉ u.name) : ∀ t ∈ indexTexts visible, '\n' ∉ t := by
  rw [indexTexts, List.forall_mem_append, List.forall_mem_append]
  refine ⟨⟨by decide, ?_⟩, by decide⟩
  intro t ht
  obtain ⟨i, hi, rfl⟩ := List.mem_mapIdx.1 ht
  unfold indexItem
  simp [h _ (List.getElem_mem hi), Anchors.feed_notMem_below]

theorem pieceHeadings_indexTexts {visible : List DocumentedUnit}
    (h : ∀ u ∈ visible, '\n' ∉ u.name) :
    pieceHeadings ((indexTexts visible).map Piece.text) = [indexTitle] := by
  have hitems : ∀ {items : List Text}, (∀ t ∈ items, '\n' ∉ t ∧ headingTitle? t = none) →
      pieceHeadings (items.map Piece.text) = [] := by
    intro items hitems
    apply pieceHeadings_eq_nil
    rw [List.forall_mem_map]
    intro t ht
    obtain ⟨hfeed, htitle⟩ := hitems t ht
    rw [Piece.toText_text, headingsIn_line hfeed, htitle]
    rfl
  have hfeed := feed_notMem_indexTexts h
  rw [indexTexts] at hfeed ⊢
  rw [List.append_assoc, List.forall_mem_append] at hfeed
  have htitle : pieceHeadings (["## ".toList ++ indexTitle, []].map Piece.text) = [indexTitle] := by
    decide
  rw [List.append_assoc, List.map_append, pieceHeadings_append, htitle, hitems, List.append_nil]
  intro t ht
  refine ⟨hfeed.2 t ht, ?_⟩
  rcases List.mem_append.1 ht with ht | ht
  · obtain ⟨i, -, rfl⟩ := List.mem_mapIdx.1 ht
    rfl
  · rw [List.mem_singleton.1 ht]
    rfl

/-- The lines of texts without line feeds are these texts. -/
theorem lines_texts {ts : List Text} (h : ∀ t ∈ ts, '\n' ∉ t) :
    (Placed.plain (ts.map Piece.text)).flatMap Placed.lines = ts.map (PageLine.mk .other) := by
  induction ts with
  | nil => rfl
  | cons t rest ih =>
    obtain ⟨ht, hrest⟩ := List.forall_mem_cons.1 h
    rw [Placed.plain] at ih ⊢
    rw [List.map_cons, List.map_cons, List.flatMap_cons, ih hrest, Placed.lines, Piece.toText_text,
      Text.paragraphs_of_notMem ht]
    rfl

section Page

variable {o : Options} {units : List DocumentedUnit}

/-- The anchors of the units are counted among all headings above. -/
theorem unitAnchors_pageLines (h : ∀ u ∈ units, '\n' ∉ u.name) :
    unitAnchors {} (pageLines o units) =
      (units.filter (isVisible o)).mapIdx fun i u ↦
        ("### ".toList ++ u.name,
          Anchors.below (pageHeadingsAbove o (units.filter (isVisible o)) i) u.name) := by
  have hvisible : ∀ u ∈ units.filter (isVisible o), '\n' ∉ u.name :=
    fun u hu ↦ h u (List.mem_of_mem_filter hu)
  rw [pageLines, placedPage]
  generalize units.filter (isVisible o) = visible at hvisible
  split
  case isTrue hnil =>
    rw [List.isEmpty_iff.1 hnil]
    rfl
  case isFalse =>
    have htitles : ((Placed.plain ((indexTexts visible).map Piece.text)).flatMap
        Placed.lines).filterMap PageLine.title? = [indexTitle] :=
      (Placed.titles_plain _).trans (pieceHeadings_indexTexts hvisible)
    rw [List.flatMap_append, unitAnchors_append, htitles,
      unitAnchors_eq_nil (role_lines (role_plain _)), List.nil_append,
      unitAnchors_placedUnits o hvisible]
    simp only [← Anchors.anchor_registerAll, pageHeadingsAbove, Anchors.registerAll_cons,
      Anchors.registerAll_nil]

/-- The item of a visible unit is two lines below the title of the index. -/
theorem getElem?_paragraphs_page (h : ∀ u ∈ units, '\n' ∉ u.name) {i : Nat} {u : DocumentedUnit}
    (hu : (units.filter (isVisible o))[i]? = some u) :
    (page o units).paragraphs[i + 2]? =
      some (indexItem u.name
        (Anchors.below (headingsAbove (units.filter (isVisible o)) i) u.name)) := by
  have hvisible : ∀ u ∈ units.filter (isVisible o), '\n' ∉ u.name :=
    fun u hu ↦ h u (List.mem_of_mem_filter hu)
  rw [paragraphs_page, pageLines, placedPage]
  generalize units.filter (isVisible o) = visible at hu hvisible ⊢
  obtain ⟨hi, rfl⟩ := List.getElem?_eq_some_iff.1 hu
  have hne : visible.isEmpty = false := by
    rw [List.isEmpty_eq_false_iff]
    exact List.ne_nil_of_length_pos (Nat.lt_of_le_of_lt (Nat.zero_le i) hi)
  have hitem : (indexTexts visible)[i + 2]? =
      some (indexItem visible[i].name
        (Anchors.below (headingsAbove visible i) visible[i].name)) := by
    rw [indexTexts, List.append_assoc]
    simp [List.getElem?_append_left, hi]
  have hlines : (indexTexts visible).map (PageLine.text ∘ PageLine.mk .other) =
      indexTexts visible := List.map_id _
  rw [hne, if_neg Bool.false_ne_true, List.flatMap_append,
    lines_texts (feed_notMem_indexTexts hvisible), List.map_append, List.map_map, hlines,
    List.append_assoc, List.getElem?_append_left (List.getElem?_eq_some_iff.1 hitem).1, hitem]

/-- The link of a unit leads to its heading unless a loose text above has a heading with the same
slug.  Here `link` is the anchor in the index, and `anchor` the one of the heading when all headings
on the page are numbered. -/
theorem unitAnchor_eq_link_iff (hnames : ∀ u ∈ units, '\n' ∉ u.name)
    (hrecords : ∀ u ∈ units, ∀ r ∈ u.record, ∃ comment, parse comment = .ok r)
    {i : Nat} {u : DocumentedUnit} (hu : (units.filter (isVisible o))[i]? = some u) :
    (page o units).paragraphs = (pageLines o units).map PageLine.text ++ [[]] ∧
    ∃ link anchor,
      (page o units).paragraphs[i + 2]? = some (indexItem u.name link) ∧
      (unitAnchors {} (pageLines o units))[i]? = some ("### ".toList ++ u.name, anchor) ∧
      (anchor = link ↔
        ∀ v ∈ (units.filter (isVisible o)).take i, ∀ r ∈ v.record, ∀ title ∈ looseTitles r,
          Slug.ofHeading title ≠ Slug.ofHeading u.name) := by
  have hvisible : ∀ v ∈ units.filter (isVisible o), '\n' ∉ v.name :=
    fun v hv ↦ hnames v (List.mem_of_mem_filter hv)
  have hwellFormed : ∀ v ∈ units.filter (isVisible o), ∀ r ∈ v.record, r.WellFormed := by
    intro v hv r hr
    obtain ⟨comment, hparse⟩ := hrecords v (List.mem_of_mem_filter hv) r hr
    obtain ⟨-, rfl⟩ := Document.parse_eq_ok_iff.1 hparse
    exact Document.wellFormed_record (Document.unbroken_ofText comment)
  refine ⟨paragraphs_page o units, Anchors.below (headingsAbove (units.filter (isVisible o)) i)
    u.name, Anchors.below (pageHeadingsAbove o (units.filter (isVisible o)) i) u.name, ?_, ?_, ?_⟩
  · exact getElem?_paragraphs_page hnames hu
  · rw [unitAnchors_pageLines hnames, List.getElem?_mapIdx, hu]
    rfl
  · exact below_pageHeadingsAbove_eq_iff o hvisible hwellFormed i u.name

end Page

/-- The records of two units were read, if that of the first was and the second has none. -/
theorem exists_parse_of_pair {u v : DocumentedUnit} {comment : Text} {r : Record}
    (h : parse comment = .ok r) (hu : u.record = some r) (hv : v.record = none) :
    ∀ w ∈ [u, v], ∀ r ∈ w.record, ∃ comment, parse comment = .ok r := by
  intro w hw r' hr'
  rcases List.mem_pair.1 hw with rfl | rfl
  · rw [hu] at hr'
    cases hr'
    exact ⟨comment, h⟩
  · rw [hv] at hr'
    cases hr'

/-- A text of the first unit has a heading, but not one that shares a slug with the second unit. -/
theorem unitAnchor_eq_link_other :
    let units : List DocumentedUnit :=
      [⟨"a".toList, .function, some { returns := some "x\n# c".toList }⟩,
        ⟨"b".toList, .property, none⟩]
    ∃ anchor, (page {} units).paragraphs[3]? = some (indexItem "b".toList anchor) ∧
      (unitAnchors {} (pageLines {} units))[1]? = some ("### b".toList, anchor) := by
  intro units
  have hparse : parse "@returns x\n\n# c".toList =
      .ok { returns := some "x\n# c".toList } := by decide
  have hnames : ∀ u ∈ units, '\n' ∉ u.name := by decide
  obtain ⟨-, link, anchor, hitem, hanchor, hiff⟩ :=
    unitAnchor_eq_link_iff hnames (exists_parse_of_pair hparse rfl rfl) (o := {}) (i := 1) rfl
  have heq : anchor = link := by
    rw [hiff]
    decide +kernel
  subst heq
  exact ⟨anchor, hitem, hanchor⟩

/-- The text `x` of the first unit is followed by a heading `b`, so the second unit, which is called
`b` too, has the anchor `b-1`; but the index has `b`. -/
theorem not_unitAnchor_eq_link :
    ¬ ∀ (o : Options) (units : List DocumentedUnit), '\n' ∉ o.codeLang →
      (∀ u ∈ units, '\n' ∉ u.name) →
      (∀ u ∈ units, ∀ r ∈ u.record, ∃ comment, parse comment = .ok r) →
      ∀ i u, (units.filter (isVisible o))[i]? = some u → ∃ anchor,
        (page o units).paragraphs[i + 2]? = some (indexItem u.name anchor) ∧
        (unitAnchors {} (pageLines o units))[i]? = some ("### ".toList ++ u.name, anchor) := by
  intro h
  let units : List DocumentedUnit :=
    [⟨"a".toList, .function, some { returns := some "x\n# b".toList }⟩,
      ⟨"b".toList, .function, none⟩]
  have hparse : parse "@returns x\n\n# b".toList =
      .ok { returns := some "x\n# b".toList } := by decide
  have hnames : ∀ u ∈ units, '\n' ∉ u.name := by decide
  have hrecords : ∀ u ∈ units, ∀ r ∈ u.record, ∃ comment, parse comment = .ok r :=
    exists_parse_of_pair hparse rfl rfl
  obtain ⟨anchor, hitem, hanchor⟩ := h {} units (by decide) hnames hrecords 1 _ rfl
  have hlink : (page {} units).paragraphs[3]? = some (indexItem "b".toList "b".toList) := by
    decide +kernel
  have hheading : (unitAnchors {} (pageLines {} units))[1]? =
      some ("### b".toList, "b-1".toList) := by
    decide +kernel
  have heq : anchor = "b".toList := indexItem_inj.1 (Option.some.inj (hitem.symm.trans hlink))
  rw [heq, hheading] at hanchor
  revert hanchor
  decide

end Markdown

end DocComment
