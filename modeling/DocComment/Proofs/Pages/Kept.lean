import DocComment.Proofs.FileTree.Directories
import DocComment.Proofs.Listing.Page
import DocComment.Proofs.Path.PageName

/-!
# Which pages a run keeps

Every listing with units to document gets a page, and the page is called after the stem of the
listing alone.  So the pages of two listings with one stem go to one file, and only the later of
them is left.  This is the only way for a page to be lost: a run that succeeds leaves all of its
pages exactly when listings with one stem have one page (`run_keeps_pages_iff`).

The difficulty is that the pages are written while listings are still to be read, and that a listing
may lie in the output directory.  The invariant (`PagesWritten`) says where the tree can differ from
the one the run began with: in the files of pages.  A listing in such a file has the stem of the
page, and what it documents then is what the page was made of, or nothing (`documented_cases`).
-/

namespace DocComment.Pages

open FileTree

/-- The units that the listing at a path documents; a file that is no listing documents none. -/
def documented (t : FileTree) (listing : Path) : List DocumentedUnit :=
  match t.read listing with
  | .error _ => []
  | .ok text =>
    match Listing.load text with
    | .error _ => []
    | .ok units => DocUnit.documentAll units

/-- The page of the units that a listing documents. -/
def Job.pageOf (job : Job) (t : FileTree) (listing : Path) : Text :=
  job.format.render job.options (documented t listing)

variable {job : Job} {t t' start : FileTree} {p q : Path} {done rest : List Path}

theorem documented_of_read {text : Text} (h : t.read p = .ok text) :
    documented t p =
      match Listing.load text with
      | .error _ => []
      | .ok units => DocUnit.documentAll units := by
  rw [documented, h]

theorem documented_congr (h : (t'.read p).toOption = (t.read p).toOption) :
    documented t' p = documented t p := by
  rw [documented, documented]
  cases hread : t.read p <;> cases hread' : t'.read p <;> simp_all [Except.toOption]

/-- A listing that documents something is a file, and has a stem. -/
theorem stem?_of_documented (h : documented t p ≠ []) : p.stem? = some (stem p) := by
  cases hread : t.read p with
  | error e =>
    rw [documented, hread] at h
    exact absurd rfl h
  | ok text =>
    obtain ⟨loc, hlocate, hfile⟩ := read_eq_ok_iff.1 hread
    exact stem?_of_file hlocate hfile

/-! ## Steps and runs -/

/-- What a step without failure does: it leaves the tree as it is, or writes a page. -/
theorem Job.process_eq_ok (h : (job.process t p).2 = .ok t') :
    documented t p = [] ∧ t' = t ∨
      documented t p ≠ [] ∧ t.write (job.pagePath p) (job.pageOf t p) = .ok t' := by
  rw [Job.process] at h
  split at h
  case h_1 => cases h
  case h_2 text hread =>
    have hdocumented := documented_of_read hread
    split at h
    case h_1 e hload =>
      rw [hload] at hdocumented
      exact .inl ⟨hdocumented, (Except.ok.inj h).symm⟩
    case h_2 units hload =>
      rw [hload] at hdocumented
      dsimp only at h hdocumented
      rw [Job.pageOf, hdocumented]
      split at h
      case isTrue hnone => exact .inl ⟨List.isEmpty_iff.1 hnone, (Except.ok.inj h).symm⟩
      case isFalse hsome =>
        refine .inr ⟨fun hnil ↦ hsome (List.isEmpty_iff.2 hnil), ?_⟩
        split at h
        case h_1 => cases h
        case h_2 t₁ hwrite =>
          cases h
          exact hwrite

/-- What every step keeps, a run without failure keeps.  The invariant may mention the listings that
are done. -/
theorem Job.processAll_invariant {I : List Path → FileTree → Prop} {listings : List Path}
    (hstep : ∀ done p later t t', done ++ p :: later = listings → I done t →
      (job.process t p).2 = .ok t' → I (done ++ [p]) t')
    (hlistings : done ++ rest = listings) (ht : I done t)
    (h : (job.processAll t rest).failure = none) : I listings (job.processAll t rest).tree := by
  induction rest generalizing done t with
  | nil =>
    rw [List.append_nil] at hlistings
    rw [← hlistings]
    exact ht
  | cons p later ih =>
    rw [Job.processAll] at h ⊢
    cases hprocess : job.process t p with
    | mk events result =>
      rw [hprocess] at h
      cases result with
      | error f => cases h
      | ok t' =>
        have ht' := hstep done p later t t' hlistings ht (by rw [hprocess])
        exact ih (by rw [List.append_assoc, List.singleton_append, hlistings]) ht' h

theorem Job.run_eq_processAll {arguments : List Path}
    (h : (job.run t arguments).failure = none) :
    ∃ listings, (Inputs.expand t arguments).2 = .ok listings ∧
      (job.processAll t listings).failure = none ∧
      (job.run t arguments).tree = (job.processAll t listings).tree := by
  rw [Job.run] at h ⊢
  cases hexpand : Inputs.expand t arguments with
  | mk events result =>
    rw [hexpand] at h
    cases result with
    | error f => cases h
    | ok listings => exact ⟨listings, rfl, h, rfl⟩

/-- What a run without failure does: it makes the output directory, and then the pages of the
listings that are selected. -/
theorem run_eq_processAll {r : CommandLine.Request} (h : (run r t).failure = none) :
    ∃ (job : Job) (start : FileTree), r.output = some job.output ∧
      Format.ofName? r.format = some job.format ∧ job.options = optionsOf r ∧
      t.makeDirectories job.output = .ok start ∧
      (job.processAll start (inputFiles r t)).failure = none ∧
      (run r t).tree = (job.processAll start (inputFiles r t)).tree := by
  rw [run] at h ⊢
  cases houtput : r.output with
  | none =>
    rw [houtput] at h
    cases h
  | some output =>
    rw [houtput] at h
    dsimp only at h ⊢
    rcases htry : t.tryDirectories output with ⟨start, _ | e⟩
    case some =>
      rw [htry] at h
      cases h
    case none =>
      have hmake : t.makeDirectories output = .ok start := by rw [makeDirectories, htry]
      rw [htry] at h
      dsimp only at h ⊢
      cases hformat : Format.ofName? r.format with
      | none =>
        rw [hformat] at h
        cases h
      | some format =>
        rw [hformat] at h
        obtain ⟨listings, hexpand, hfailure, htree⟩ := Job.run_eq_processAll h
        have hinputs : inputFiles r t = listings := by
          have hstart : (Except.ok start : Except FileError FileTree).toOption.getD t = start := rfl
          simp only [inputFiles, houtput, Option.map_some, Option.getD_some, hmake, hstart, hexpand]
        refine ⟨⟨output, format, optionsOf r, r.warnUnknown⟩, start, rfl, rfl, rfl, hmake, ?_⟩
        rw [hinputs]
        exact ⟨hfailure, htree⟩

/-! ## The invariant -/

/-- Listings with one stem have one page. -/
def StemsAgree (job : Job) (start : FileTree) (listings : List Path) : Prop :=
  ∀ p ∈ listings, ∀ q ∈ listings, documented start p ≠ [] → documented start q ≠ [] →
    p.stem? = q.stem? → job.pageOf start p = job.pageOf start q

/-- What holds when some listings are done, in a run whose listings with one stem have one page. -/
structure PagesWritten (job : Job) (start : FileTree) (done : List Path) (t : FileTree) : Prop where
  directories : SameDirectories start t
  /-- The pages of the listings that are done are there. -/
  written : ∀ p ∈ done, documented start p ≠ [] →
    t.read (job.pagePath p) = .ok (job.pageOf start p)
  /-- Only the files of these pages have changed. -/
  changed : ∀ loc, t.get? loc ≠ start.get? loc →
    ∃ q ∈ done, documented start q ≠ [] ∧ start.locate (job.pagePath q) = .ok loc

namespace PagesWritten

theorem init (job : Job) (start : FileTree) : PagesWritten job start [] start :=
  ⟨.refl start, nofun, fun _ hne ↦ absurd rfl hne⟩

variable (h : PagesWritten job start done t)
include h

/-- A listing documents what it did at the beginning of the run, unless it lies in the file of a
page that is done.  Then its stem is that of the page, and it documents nothing or what the page
does. -/
theorem documented_cases (p : Path) :
    documented t p = documented start p ∨
      ∃ q ∈ done, documented start q ≠ [] ∧ stem p = stem q ∧
        (documented t p ≠ [] → documented t p = documented start q) := by
  by_cases hread : (t.read p).toOption = (start.read p).toOption
  · exact .inl (documented_congr hread)
  obtain ⟨loc, hlocate, hne⟩ := h.directories.exists_of_read_ne hread
  obtain ⟨q, hq, hdocumented, hpage⟩ := h.changed loc hne
  refine .inr ⟨q, hq, hdocumented, ?_⟩
  obtain ⟨loc', hpage', hfile⟩ := read_eq_ok_iff.1 (h.written q hq hdocumented)
  have hp := h.directories.right.locate hlocate
  obtain rfl : loc = loc' := by
    rw [h.directories.right.locate hpage] at hpage'
    exact Except.ok.inj hpage'
  refine ⟨job.stem_of_location_page hp hfile hpage', ?_⟩
  rw [documented_of_read (read_eq_ok_iff.2 ⟨loc, hp, hfile⟩)]
  cases hload : Listing.load (job.pageOf start q) with
  | error e => exact fun hnil ↦ absurd rfl hnil
  | ok units => exact fun _ ↦ documentAll_of_load_render hload

/-- A listing that documents nothing when its turn comes has its page all the same: the page of a
listing with its stem. -/
theorem skip (hsame : StemsAgree job start (done ++ [p])) (hnil : documented t p = []) :
    PagesWritten job start (done ++ [p]) t := by
  refine ⟨h.directories, ?_, ?_⟩
  · intro x hx hdocumented
    rcases List.mem_append.1 hx with hdone | hlast
    · exact h.written x hdone hdocumented
    rw [List.mem_singleton.1 hlast] at hdocumented ⊢
    rcases h.documented_cases p with heq | ⟨q, hq, hdocumented', hstem, -⟩
    · exact absurd (heq.symm.trans hnil) hdocumented
    have hpage := h.written q hq hdocumented'
    rwa [← job.pagePath_eq_iff.2 hstem, ← hsame p List.mem_concat_self q
      (List.mem_append_left [p] hq) hdocumented hdocumented' ?_] at hpage
    rw [stem?_of_documented hdocumented, stem?_of_documented hdocumented', hstem]
  · intro loc hne
    obtain ⟨q, hq, hloc⟩ := h.changed loc hne
    exact ⟨q, List.mem_append_left [p] hq, hloc⟩

/-- What is written is the page of a listing with the stem of the one whose turn it is. -/
theorem exists_pageOf_eq (hsome : documented t p ≠ []) :
    ∃ q ∈ done ++ [p], documented start q ≠ [] ∧ stem p = stem q ∧
      job.pageOf t p = job.pageOf start q := by
  rcases h.documented_cases p with heq | ⟨q, hq, hdocumented, hstem, heq⟩
  · refine ⟨p, List.mem_concat_self, heq ▸ hsome, rfl, ?_⟩
    rw [Job.pageOf, heq, Job.pageOf]
  · refine ⟨q, List.mem_append_left [p] hq, hdocumented, hstem, ?_⟩
    rw [Job.pageOf, heq hsome, Job.pageOf]

/-- A page is written to its file, and where it takes the place of another page, this has the same
text. -/
theorem write (hsame : StemsAgree job start (done ++ [p])) (hsome : documented t p ≠ [])
    (hwrite : t.write (job.pagePath p) (job.pageOf t p) = .ok t') :
    PagesWritten job start (done ++ [p]) t' := by
  obtain ⟨q, hq, hdocumented, hstem, hpage⟩ := h.exists_pageOf_eq hsome
  obtain ⟨loc, hlocate, hfile, ht'⟩ := write_eq_ok hwrite
  have hdirectories : SameDirectories t t' := ht' ▸ SameDirectories.put_file hfile _
  have hother : ∀ other, other ≠ loc → t'.get? other = t.get? other := by
    intro other hne
    rw [ht', get?_put_of_ne t _ hne]
  refine ⟨h.directories.trans hdirectories, ?_, ?_⟩
  · intro x hx hdocumented'
    by_cases hx' : t.locate (job.pagePath x) = .ok loc
    · -- The page of `x` goes where the page is written.
      have hstem' := job.stem_eq_of_location_page hx' hlocate
      rw [job.pagePath_eq_iff.2 hstem', hsame x hx q hq hdocumented' hdocumented ?_, ← hpage]
      · exact read_of_write hwrite
      · rw [stem?_of_documented hdocumented, stem?_of_documented hdocumented', hstem', hstem]
    · rcases List.mem_append.1 hx with hdone | hlast
      · obtain ⟨loc', hlocate', hfile'⟩ :=
          read_eq_ok_iff.1 (h.written x hdone hdocumented')
        rw [read_eq_ok_iff]
        refine ⟨loc', hdirectories.right.locate hlocate', ?_⟩
        rw [hother loc' fun heq ↦ hx' (heq ▸ hlocate'), hfile']
      · rw [List.mem_singleton.1 hlast] at hx'
        exact absurd hlocate hx'
  · intro other hne
    by_cases heq : other = loc
    · refine ⟨q, hq, hdocumented, ?_⟩
      rw [← job.pagePath_eq_iff.2 hstem, heq]
      exact h.directories.left.locate hlocate
    · rw [hother other heq] at hne
      obtain ⟨q', hq', hloc⟩ := h.changed other hne
      exact ⟨q', List.mem_append_left [p] hq', hloc⟩

/-- One more listing is done. -/
theorem step (hsame : StemsAgree job start (done ++ [p]))
    (hprocess : (job.process t p).2 = .ok t') : PagesWritten job start (done ++ [p]) t' := by
  rcases Job.process_eq_ok hprocess with ⟨hnil, rfl⟩ | ⟨hsome, hwrite⟩
  · exact h.skip hsame hnil
  · exact h.write hsame hsome hwrite

end PagesWritten

theorem StemsAgree.mono {listings more : List Path} (h : StemsAgree job start more)
    (hsubset : listings ⊆ more) : StemsAgree job start listings := by
  intro p hp q hq
  exact h p (hsubset hp) q (hsubset hq)

/-- A run without failure leaves the pages of all its listings if listings with one stem have one
page. -/
theorem Job.pagesWritten_processAll {listings : List Path} (hsame : StemsAgree job start listings)
    (h : (job.processAll start listings).failure = none) :
    PagesWritten job start listings (job.processAll start listings).tree := by
  refine Job.processAll_invariant ?_ (List.nil_append listings) (.init job start) h
  intro done p later t t' hlistings hdone hprocess
  refine hdone.step (hsame.mono ?_) hprocess
  rw [← hlistings, List.append_cons done p later]
  exact List.subset_append_left (done ++ [p]) later

/-! ## Which pages are kept -/

/-- A run that succeeds leaves the page of every listing that documents something exactly when
listings with one stem have one page.  The pages are those of the contents that the listings had
when the run began; making the output directory has changed none of them. -/
theorem run_keeps_pages_iff {r : CommandLine.Request} {t : FileTree}
    (h : (run r t).failure = none) :
    ∃ (job : Job) (start : FileTree), r.output = some job.output ∧
      Format.ofName? r.format = some job.format ∧ job.options = optionsOf r ∧
      t.makeDirectories job.output = .ok start ∧
      (∀ p text, t.read p = .ok text → start.read p = .ok text) ∧
      ((∀ p ∈ inputFiles r t, documented start p ≠ [] →
          (run r t).tree.read (job.pagePath p) = .ok (job.pageOf start p)) ↔
        ∀ p ∈ inputFiles r t, ∀ q ∈ inputFiles r t, documented start p ≠ [] →
          documented start q ≠ [] → p.stem? = q.stem? →
            job.pageOf start p = job.pageOf start q) := by
  obtain ⟨job, start, houtput, hformat, hoptions, hmake, hfailure, htree⟩ := run_eq_processAll h
  refine ⟨job, start, houtput, hformat, hoptions, hmake, ?_, ?_, ?_⟩
  · intro p text
    exact (keeps_makeDirectories hmake).read
  · -- One file cannot have two texts.
    intro hkept p hp q hq hdocumented hdocumented' hstem
    rw [stem?_of_documented hdocumented, stem?_of_documented hdocumented', Option.some_inj] at hstem
    have hpage := hkept p hp hdocumented
    rw [job.pagePath_eq_iff.2 hstem, hkept q hq hdocumented'] at hpage
    exact (Except.ok.inj hpage).symm
  · intro hsame
    rw [htree]
    exact (Job.pagesWritten_processAll hsame hfailure).written

/-- Two directories, each with a listing called `x`. -/
def listingsCalledX : FileTree :=
  (FileTree.addFile { workingDirectory := ["home".toList] } ["a".toList, "x.json".toList]
    (.text "[\x7b\"name\":\"f\"\x7d]".toList)).addFile ["b".toList, "x.json".toList]
    (.text "[\x7b\"name\":\"g\"\x7d]".toList)

/-- A request for the page of one of them, with paths from the root. -/
def pageFromRoot : CommandLine.Request :=
  ⟨["/home/../*/a/x.json".toList], some "/pages/new".toList, "markdown".toList, [], false, false,
    false⟩

theorem run_pageFromRoot_keeps_pages_iff :
    (run pageFromRoot listingsCalledX).failure = none ∧
      inputFiles pageFromRoot listingsCalledX = ["/home/../home/a/x.json".toList] ∧
      ∃ (job : Job) (start : FileTree), pageFromRoot.output = some job.output ∧
        Format.ofName? pageFromRoot.format = some job.format ∧
        job.options = optionsOf pageFromRoot ∧
        listingsCalledX.makeDirectories job.output = .ok start ∧
        (∀ p text, listingsCalledX.read p = .ok text → start.read p = .ok text) ∧
        ((∀ p ∈ inputFiles pageFromRoot listingsCalledX, documented start p ≠ [] →
            (run pageFromRoot listingsCalledX).tree.read (job.pagePath p) =
              .ok (job.pageOf start p)) ↔
          ∀ p ∈ inputFiles pageFromRoot listingsCalledX,
            ∀ q ∈ inputFiles pageFromRoot listingsCalledX, documented start p ≠ [] →
              documented start q ≠ [] → p.stem? = q.stem? →
                job.pageOf start p = job.pageOf start q) := by
  have h : (run pageFromRoot listingsCalledX).failure = none := by decide +kernel
  exact ⟨h, by decide +kernel, run_keeps_pages_iff h⟩

/-- A request for the pages of both. -/
def twoPages : CommandLine.Request :=
  ⟨["a/x.json".toList, "b/x.json".toList], some "out".toList, "markdown".toList, [], false, false,
    false⟩

/-- The page of `a/x.json` is lost: after a run that succeeds, `out/x.md` is the page of
`b/x.json`. -/
theorem not_run_keeps_pages :
    let job : Job := ⟨"out".toList, .markdown, optionsOf twoPages, false⟩
    (run twoPages listingsCalledX).failure = none ∧
      ¬∀ p ∈ inputFiles twoPages listingsCalledX, documented listingsCalledX p ≠ [] →
        (run twoPages listingsCalledX).tree.read (job.pagePath p) =
          .ok (job.pageOf listingsCalledX p) := by
  refine ⟨by decide +kernel, ?_⟩
  intro h
  have hpage := h "a/x.json".toList (by decide +kernel) (by decide +kernel)
  exact absurd (congrArg Except.toOption hpage) (by decide +kernel)

end DocComment.Pages
