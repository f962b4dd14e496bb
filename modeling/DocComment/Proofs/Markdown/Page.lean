import DocComment.Format
import DocComment.Proofs.Anchors.Collision

/-!
# What a page is made of

A page is put together from the names of its units and from the bodies of their records, and nothing
else goes in (`page_eq`).  The bodies are there as they are by themselves; only the index depends on
the whole page, since the anchors in it count the headings above.

The index is laid out unit by unit, with the headings registered that each block brings along.  What
has been registered before a unit are the headings of the blocks above it (`indexLines_eq`), and the
headings of a block are the name of the unit and the titles of the sections that its record has
(`titles_eq_sectionTitles`): a section without content has none.
-/

namespace DocComment

namespace Anchors

/-- Registered headings are the earlier ones, the latest first. -/
theorem slugs_registerAll (a : Anchors) (headings : List Text) :
    (a.registerAll headings).slugs = (slugsOf headings).reverse ++ a.slugs := by
  induction headings generalizing a with
  | nil => rfl
  | cons heading rest ih =>
    rw [registerAll_cons, ih, slugsOf_cons, List.reverse_cons, List.append_assoc]
    rfl

/-- The anchor of a heading below others: its slug, and the number of those that share it. -/
def below (above : List Text) (heading : Text) : Text :=
  let slug := Slug.ofHeading heading
  let earlier := above.countP (Slug.ofHeading · = slug)
  if earlier = 0 then slug else slug ++ "-".toList ++ Text.ofNat earlier

theorem below_eq_numbered (above : List Text) (heading : Text) :
    below above heading =
      numbered (Slug.ofHeading heading)
        (above.countP (Slug.ofHeading · = Slug.ofHeading heading)) := by
  rw [below, numbered]
  simp only [List.append_assoc]
  rfl

/-- On a fresh page the headings that were registered are those above. -/
theorem anchor_registerAll (above : List Text) (heading : Text) :
    (registerAll {} above).anchor heading = below above heading := by
  have hcount : (registerAll {} above).slugs.count (Slug.ofHeading heading) =
      above.countP (Slug.ofHeading · = Slug.ofHeading heading) := by
    rw [slugs_registerAll, List.append_nil, List.count_reverse, slugsOf, List.count,
      List.countP_map]
    exact List.countP_congr fun _ _ ↦ by simp
  rw [anchor, hcount, below_eq_numbered]

end Anchors

namespace Markdown

/-! ## Titles of sections -/

/-- The titles of the sections that a record has on a page, in page order. -/
def sectionTitles (r : Record) : List Text :=
  (if r.throws.isEmpty then [] else ["Throws".toList]) ++
  (if r.examples.isEmpty then [] else ["Examples".toList]) ++
  (if r.authors.any fun a ↦ a.name.isSome || a.email.isSome then ["Authors".toList] else []) ++
  (if r.copyright.isEmpty then [] else ["Copyright".toList]) ++
  (if r.license.isNone then [] else ["License".toList]) ++
  (if r.todo.isEmpty then [] else ["Todo".toList]) ++
  (if r.namespaces.isEmpty then [] else ["Namespaces".toList])

theorem titles_heading (title : Text) (ps : List Piece) :
    (Piece.heading title :: ps).filterMap Piece.title? = title :: ps.filterMap Piece.title? := rfl

/-- A text that may be missing brings no title along. -/
theorem titles_optional {α : Type} (x : Option α) (t : α → Text) :
    ((x.map fun a ↦ paragraph (t a)).getD []).filterMap Piece.title? = [] := by
  cases x <;> rfl

theorem titles_deprecationNotice (d : Deprecation) :
    (deprecationNotice d).filterMap Piece.title? = [] := by
  cases d <;> rfl

theorem titles_texts {α : Type} (xs : List α) (t : α → Text) :
    (xs.map fun x ↦ Piece.text (t x)).filterMap Piece.title? = [] := by
  rw [List.filterMap_map]
  exact List.filterMap_eq_nil_iff.2 fun _ _ ↦ rfl

theorem titles_parameterTable (ps : List Parameter) :
    (parameterTable ps).filterMap Piece.title? = [] := by
  rw [parameterTable]
  split
  case isTrue => rfl
  case isFalse =>
    rw [List.filterMap_append, List.filterMap_cons_none rfl, List.filterMap_cons_none rfl,
      titles_texts]
    rfl

/-- A list has its title as soon as it has an item. -/
theorem titles_listSection (title : Text) (items : List Text) :
    (listSection title items).filterMap Piece.title? =
      if items.isEmpty then [] else [title] := by
  rw [listSection]
  split
  case isTrue => rfl
  case isFalse =>
    rw [List.filterMap_append, titles_heading, titles_texts]
    rfl

theorem titles_exampleSection (codeLang : Text) (es : List Example) :
    (exampleSection codeLang es).filterMap Piece.title? =
      if es.isEmpty then [] else ["Examples".toList] := by
  have hblock : ∀ e, (exampleBlock codeLang e).filterMap Piece.title? = [] := by
    intro e
    rw [exampleBlock, List.filterMap_append]
    exact congrArg (· ++ []) (titles_optional e.caption id)
  rw [exampleSection]
  split
  case isTrue => rfl
  case isFalse =>
    rw [titles_heading, List.filterMap_flatMap, List.flatMap_eq_nil_iff.2 fun e _ ↦ hblock e]

theorem titles_stamps (since version : Option Text) :
    (stamps since version).filterMap Piece.title? = [] := by
  rw [stamps]
  split <;> rfl

theorem titles_licenseSection (license : Option License) :
    (licenseSection license).filterMap Piece.title? =
      if license.isNone then [] else ["License".toList] := by
  cases license with
  | none => rfl
  | some l =>
    rw [licenseSection, List.cons_append, titles_heading, List.filterMap_append,
      titles_optional l.name, titles_optional l.text]
    rfl

theorem titles_scopeLine (memberOf : List Text) (isGlobal : Bool) :
    (scopeLine memberOf isGlobal).filterMap Piece.title? = [] := by
  rw [scopeLine]
  generalize memberOf.map codeSpan ++ _ = scopes
  cases scopes <;> rfl

/-- An author with neither name nor address is not listed. -/
theorem authorItem?_eq_none_iff (a : Author) :
    authorItem? a = none ↔ (a.name.isSome || a.email.isSome) = false := by
  obtain ⟨name, email⟩ := a
  cases name <;> cases email <;> simp [authorItem?]

/-- Authors are listed as soon as one of them has a name or an address. -/
theorem isEmpty_authorItems (authors : List Author) :
    (authors.filterMap authorItem?).isEmpty =
      !authors.any fun a ↦ a.name.isSome || a.email.isSome := by
  rw [Bool.eq_iff_iff, List.isEmpty_iff, List.filterMap_eq_nil_iff, Bool.not_eq_true',
    List.any_eq_false]
  refine forall₂_congr fun a _ ↦ ?_
  rw [authorItem?_eq_none_iff, Bool.not_eq_true]

theorem authorTitle_eq (authors : List Author) (title : Text) :
    (if (authors.filterMap authorItem?).isEmpty then [] else [title]) =
      if authors.any fun a ↦ a.name.isSome || a.email.isSome then [title] else [] := by
  rw [isEmpty_authorItems]
  cases authors.any fun a ↦ a.name.isSome || a.email.isSome <;> rfl

/-- The titles on a page are those of the sections that have something to show. -/
theorem titles_eq_sectionTitles (o : Options) (r : Record) : titles o r = sectionTitles r := by
  simp only [titles, pieces, List.filterMap_append, titles_deprecationNotice, descriptionQuote,
    returnsLine, titles_optional, titles_parameterTable, titles_listSection, titles_exampleSection,
    titles_stamps, titles_licenseSection, titles_scopeLine, authorTitle_eq, List.isEmpty_map,
    sectionTitles, List.nil_append, List.append_nil]

/-! ## The index -/

/-- The headings above the block of a unit, given the units of the page and the unit's position:
the index, and for each unit before it the name and the titles of its sections. -/
def headingsAbove (visible : List DocumentedUnit) (i : Nat) : List Text :=
  "Index".toList ::
    (visible.take i).flatMap fun u ↦ u.name :: (u.record.map sectionTitles).getD []

theorem headings_eq (o : Options) (u : DocumentedUnit) :
    headings o u = u.name :: (u.record.map sectionTitles).getD [] := by
  rw [headings, funext (titles_eq_sectionTitles o)]

/-- Every anchor of an index is the one below the headings of the units before. -/
theorem indexLines_eq (o : Options) (above : Anchors) (us : List DocumentedUnit) :
    indexLines o above us =
      (us.mapIdx fun i u ↦ indexItem u.name
        ((above.registerAll ((us.take i).flatMap (headings o))).anchor u.name)).flatMap
          (· ++ ['\n']) := by
  induction us generalizing above with
  | nil => rfl
  | cons u rest ih =>
    rw [indexLines, ih, List.mapIdx_cons, List.flatMap_cons]
    simp only [List.take_succ_cons, List.flatMap_cons, Anchors.registerAll_append]
    simp

theorem registerAll_headings (o : Options) (visible : List DocumentedUnit) (i : Nat) :
    (Anchors.register {} indexTitle).registerAll ((visible.take i).flatMap (headings o)) =
      Anchors.registerAll {} (headingsAbove visible i) := by
  rw [headingsAbove, Anchors.registerAll_cons, funext (headings_eq o)]
  rfl

/-- On a page, the anchors of the index come of the headings above the units. -/
theorem indexLines_page (o : Options) (visible : List DocumentedUnit) :
    indexLines o (Anchors.register {} indexTitle) visible =
      (visible.mapIdx fun i u ↦
        indexItem u.name (Anchors.below (headingsAbove visible i) u.name)).flatMap
          (· ++ ['\n']) := by
  simp only [indexLines_eq, registerAll_headings, Anchors.anchor_registerAll]

/-! ## Pages -/

/-- A page is empty without visible units.  Otherwise it is the index, in which each unit has the
anchor that comes of the headings above it, and then for each unit its name, its kind and the text
of its record. -/
theorem page_eq (o : Options) (units : List DocumentedUnit) :
    page o units =
      let visible := units.filter fun u ↦ o.showPrivate || !u.isHidden
      if visible.isEmpty then []
      else
        "## Index\n\n".toList ++
        (visible.mapIdx fun i u ↦
          "* [".toList ++ u.name ++ "](#".toList ++
            Anchors.below (headingsAbove visible i) u.name ++ ")".toList).flatMap
              (· ++ "\n".toList) ++
        "\n".toList ++
        visible.flatMap fun u ↦
          "### ".toList ++ u.name ++ "\n\n_".toList ++ u.kind.word ++ "_\n\n".toList ++
            (u.record.map (Format.markdown.renderRecord o)).getD [] ++ "\n".toList := by
  have hvisible : units.filter (isVisible o) =
      units.filter fun u ↦ o.showPrivate || !u.isHidden := rfl
  rw [page, hvisible]
  generalize units.filter (fun u ↦ o.showPrivate || !u.isHidden) = visible
  dsimp only
  split
  case isTrue => rfl
  case isFalse =>
    have htitle : "## ".toList ++ indexTitle ++ "\n\n".toList = "## Index\n\n".toList := by decide
    rw [indexLines_page, htitle, List.append_assoc _ "\n".toList]
    rfl

end Markdown

end DocComment
