import DocComment.Proofs.Pages.Kept

/-!
# What a run changes

A run makes directories on the path of its output directory and writes pages in it, and touches
nothing else, however it ends (`run_effect`).  A run that fails before its first listing changes no
file.  A run that fails at a listing leaves the tree that the listings before it leave: their pages
are whole, and none of the others is written.

Two inductions over the listings carry this.  The first one compares a run with the run over its
first listings only (`Job.FailsAt.tree_eq`).  The second one is about a stretch of listings that are
processed without failure, and says what their pages make of the tree (`Written`); one page is
written by `Written.write`, and stretches are put together by `Written.trans`.
-/

namespace DocComment.Pages

open FileTree

variable {job : Job} {t t' start : FileTree} {p : Path} {listings rest : List Path} {f : Failure}
variable {k : Nat} {r : CommandLine.Request}

/-! ## Up to the first failure -/

theorem Job.processAll_cons_of_ok (h : (job.process t p).2 = .ok t') (rest : List Path) :
    (job.processAll t (p :: rest)).failure = (job.processAll t' rest).failure ∧
      (job.processAll t (p :: rest)).tree = (job.processAll t' rest).tree := by
  rw [processAll]
  rcases hprocess : job.process t p with ⟨events, result⟩
  rw [hprocess] at h
  subst h
  exact ⟨rfl, rfl⟩

theorem Job.processAll_cons_of_error (h : (job.process t p).2 = .error f) (rest : List Path) :
    (job.processAll t (p :: rest)).failure = some f ∧
      (job.processAll t (p :: rest)).tree = t := by
  rw [processAll]
  rcases hprocess : job.process t p with ⟨events, result⟩
  rw [hprocess] at h
  subst h
  exact ⟨rfl, rfl⟩

/-- The listing at an index fails, and the listings before it do not. -/
structure Job.FailsAt (job : Job) (t : FileTree) (listings : List Path) (k : Nat) (f : Failure) :
    Prop where
  before : (job.processAll t (listings.take k)).failure = none
  fails : ∃ p, listings[k]? = some p ∧
    (job.process (job.processAll t (listings.take k)).tree p).2 = .error f

theorem Job.failsAt_zero_iff :
    job.FailsAt t (p :: rest) 0 f ↔ (job.process t p).2 = .error f := by
  constructor
  · rintro ⟨-, p, ⟨⟩, h⟩
    exact h
  · intro h
    exact ⟨rfl, p, rfl, h⟩

theorem Job.failsAt_succ_iff (h : (job.process t p).2 = .ok t') :
    job.FailsAt t (p :: rest) (k + 1) f ↔ job.FailsAt t' rest k f := by
  obtain ⟨hfailure, htree⟩ := processAll_cons_of_ok h (rest.take k)
  constructor
  · rintro ⟨hbefore, q, hq, hfails⟩
    rw [List.take_succ_cons] at hbefore hfails
    rw [hfailure] at hbefore
    rw [htree] at hfails
    exact ⟨hbefore, q, hq, hfails⟩
  · rintro ⟨hbefore, q, hq, hfails⟩
    refine ⟨?_, q, hq, ?_⟩
    · rw [List.take_succ_cons, hfailure, hbefore]
    · rw [List.take_succ_cons, htree, hfails]

/-- After a failure no listing is processed. -/
theorem Job.not_failsAt_succ {e : Failure} (h : (job.process t p).2 = .error e) :
    ¬job.FailsAt t (p :: rest) (k + 1) f := by
  rintro ⟨hbefore, -⟩
  rw [List.take_succ_cons, (processAll_cons_of_error h _).1] at hbefore
  cases hbefore

/-- A run over some listings fails exactly when one of them does. -/
theorem Job.failure_processAll_iff :
    (job.processAll t listings).failure = some f ↔ ∃ k, job.FailsAt t listings k f := by
  induction listings generalizing t with
  | nil =>
    constructor
    · exact nofun
    · rintro ⟨k, -, p, hp, -⟩
      cases hp
  | cons p rest ih =>
    cases h : (job.process t p).2 with
    | error e =>
      rw [(processAll_cons_of_error h rest).1, Option.some_inj]
      constructor
      · rintro rfl
        exact ⟨0, failsAt_zero_iff.2 h⟩
      · rintro ⟨_ | k, hk⟩
        · rw [failsAt_zero_iff, h] at hk
          exact Except.error.inj hk
        · exact absurd hk (not_failsAt_succ h)
    | ok t' =>
      rw [(processAll_cons_of_ok h rest).1, ih]
      constructor
      · rintro ⟨k, hk⟩
        exact ⟨k + 1, (failsAt_succ_iff h).2 hk⟩
      · rintro ⟨_ | k, hk⟩
        · rw [failsAt_zero_iff, h] at hk
          cases hk
        · exact ⟨k, (failsAt_succ_iff h).1 hk⟩

/-- A run that fails at a listing leaves what the listings before it leave. -/
theorem Job.FailsAt.tree_eq (h : job.FailsAt t listings k f) :
    (job.processAll t listings).tree = (job.processAll t (listings.take k)).tree := by
  induction listings generalizing t k with
  | nil => rw [List.take_nil]
  | cons p rest ih =>
    cases hp : (job.process t p).2 with
    | error e =>
      cases k with
      | zero => exact (processAll_cons_of_error hp rest).2
      | succ k => exact absurd h (not_failsAt_succ hp)
    | ok t' =>
      cases k with
      | zero =>
        rw [failsAt_zero_iff, hp] at h
        cases h
      | succ k =>
        rw [List.take_succ_cons, (processAll_cons_of_ok hp _).2, (processAll_cons_of_ok hp _).2,
          ih ((failsAt_succ_iff hp).1 h)]

/-! ## Pages -/

/-- The pages that are made of some listings, each with its path, in the order in which they are
written. -/
def Job.pages (job : Job) (t : FileTree) : List Path → List (Path × Text)
  | [] => []
  | p :: rest =>
    (if (documented t p).isEmpty then [] else [(job.pagePath p, job.pageOf t p)]) ++
      job.pages ((job.process t p).2.toOption.getD t) rest

theorem Job.exists_listing_of_mem_pages {page : Path × Text} (h : page ∈ job.pages t listings) :
    ∃ q ∈ listings, page.1 = job.pagePath q := by
  induction listings generalizing t with
  | nil => cases h
  | cons p rest ih =>
    rw [pages, List.mem_append] at h
    rcases h with h | h
    · split at h
      · cases h
      · rw [List.mem_singleton.1 h]
        exact ⟨p, List.mem_cons_self, rfl⟩
    · obtain ⟨q, hq, heq⟩ := ih h
      exact ⟨q, List.mem_cons_of_mem p hq, heq⟩

/-- What some pages make of a tree when they are written one after the other. -/
structure Written (job : Job) (pages : List (Path × Text)) (t t' : FileTree) : Prop where
  /-- They are pages of a run. -/
  paths : ∀ page ∈ pages, ∃ q, page.1 = job.pagePath q
  directories : SameDirectories t t'
  /-- Where pages are written, the last one is left, and it is whole. -/
  whole : ∀ path text, pages.reverse.lookup path = some text → t'.read path = .ok text
  /-- Only their files have changed. -/
  changed : ∀ loc, t'.get? loc ≠ t.get? loc → ∃ page ∈ pages, t.locate page.1 = .ok loc

namespace Written

variable {ps qs : List (Path × Text)} {path : Path} {text : Text}

theorem mem_of_lookup_reverse (h : ps.reverse.lookup path = some text) : (path, text) ∈ ps := by
  obtain ⟨before, after, hps, -⟩ := List.lookup_eq_some_iff.1 h
  rw [← List.mem_reverse, hps]
  exact List.mem_append_right before List.mem_cons_self

theorem ne_of_lookup_reverse (h : ps.reverse.lookup path = none) : ∀ page ∈ ps, page.1 ≠ path := by
  intro page hpage heq
  have hne := List.lookup_eq_none_iff.1 h page (List.mem_reverse.2 hpage)
  rw [heq, bne_self_eq_false] at hne
  cases hne

theorem refl (job : Job) (t : FileTree) : Written job [] t t :=
  ⟨nofun, .refl t, nofun, fun _ hne ↦ absurd rfl hne⟩

/-- One page is written. -/
theorem write (h : t.write (job.pagePath p) text = .ok t') :
    Written job [(job.pagePath p, text)] t t' := by
  obtain ⟨loc, hlocate, hfile, ht'⟩ := write_eq_ok h
  refine ⟨?_, ht' ▸ SameDirectories.put_file hfile _, ?_, ?_⟩
  · intro page hpage
    exact ⟨p, congrArg Prod.fst (List.mem_singleton.1 hpage)⟩
  · intro path text' hlookup
    cases List.mem_singleton.1 (mem_of_lookup_reverse hlookup)
    exact read_of_write h
  · intro other hne
    obtain rfl : other = loc := by
      by_contra hother
      rw [ht', get?_put_of_ne t _ hother] at hne
      exact hne rfl
    exact ⟨_, List.mem_singleton_self _, hlocate⟩

/-- Where pages are written, there is a file. -/
theorem exists_text {page : Path × Text} {loc : Location} (h : Written job ps t t')
    (hpage : page ∈ ps) (hlocate : t.locate page.1 = .ok loc) :
    ∃ text, t'.get? loc = some (.file (.text text)) := by
  cases hlookup : ps.reverse.lookup page.1 with
  | none => exact absurd rfl (ne_of_lookup_reverse hlookup page hpage)
  | some text =>
    obtain ⟨loc', hlocate', hfile⟩ := read_eq_ok_iff.1 (h.whole page.1 text hlookup)
    rw [h.directories.right.locate hlocate] at hlocate'
    cases hlocate'
    exact ⟨text, hfile⟩

/-- A page is left by later ones if none of them has its path: pages in one place have one path. -/
theorem read_of_notMem (h : Written job qs t t')
    (hpath : ∃ p, path = job.pagePath p) (hnone : ∀ page ∈ qs, page.1 ≠ path)
    (hread : t.read path = .ok text) : t'.read path = .ok text := by
  obtain ⟨p, rfl⟩ := hpath
  obtain ⟨loc, hlocate, hfile⟩ := read_eq_ok_iff.1 hread
  refine read_eq_ok_iff.2 ⟨loc, h.directories.right.locate hlocate, ?_⟩
  by_contra hne
  rw [← hfile] at hne
  obtain ⟨page, hpage, hlocate'⟩ := h.changed loc hne
  obtain ⟨q, hq⟩ := h.paths page hpage
  refine hnone page hpage ?_
  rw [hq] at hlocate' ⊢
  exact job.pagePath_eq_iff.2 (job.stem_eq_of_location_page hlocate' hlocate)

/-- First some pages are written, then others. -/
theorem trans {t'' : FileTree} (h : Written job ps t t') (h' : Written job qs t' t'') :
    Written job (ps ++ qs) t t'' := by
  refine ⟨?_, h.directories.trans h'.directories, ?_, ?_⟩
  · intro page hpage
    exact (List.mem_append.1 hpage).elim (h.paths page) (h'.paths page)
  · intro path text hlookup
    rw [List.reverse_append, List.lookup_append] at hlookup
    cases hlater : qs.reverse.lookup path with
    | some later =>
      rw [hlater] at hlookup
      cases hlookup
      exact h'.whole path text hlater
    | none =>
      rw [hlater, Option.none_or] at hlookup
      exact h'.read_of_notMem (h.paths _ (mem_of_lookup_reverse hlookup))
        (ne_of_lookup_reverse hlater) (h.whole path text hlookup)
  · intro loc hne
    by_cases hlater : t''.get? loc = t'.get? loc
    · rw [hlater] at hne
      obtain ⟨page, hpage, hlocate⟩ := h.changed loc hne
      exact ⟨page, List.mem_append_left qs hpage, hlocate⟩
    · obtain ⟨page, hpage, hlocate⟩ := h'.changed loc hlater
      exact ⟨page, List.mem_append_right ps hpage, h.directories.left.locate hlocate⟩

end Written

/-- Listings that are processed without failure have their pages written. -/
theorem Job.written_pages (h : (job.processAll t listings).failure = none) :
    Written job (job.pages t listings) t (job.processAll t listings).tree := by
  induction listings generalizing t with
  | nil => exact .refl job t
  | cons p rest ih =>
    cases hp : (job.process t p).2 with
    | error e =>
      rw [(processAll_cons_of_error hp rest).1] at h
      cases h
    | ok t' =>
      obtain ⟨hfailure, htree⟩ := processAll_cons_of_ok hp rest
      rw [hfailure] at h
      have hnext : (Except.ok t' : Except Failure FileTree).toOption.getD t = t' := rfl
      rw [htree, pages, hp, hnext]
      refine Written.trans ?_ (ih h)
      rcases Job.process_eq_ok hp with ⟨hnil, rfl⟩ | ⟨hsome, hwrite⟩
      · rw [if_pos (List.isEmpty_iff.2 hnil)]
        exact .refl job t'
      · rw [if_neg fun hnil ↦ hsome (List.isEmpty_iff.1 hnil)]
        exact .write hwrite

/-! ## Requests -/

/-- A request gets as far as its listings: it has an output directory, which can be made, and a
known format, and its patterns are well-formed. -/
structure Reaches (r : CommandLine.Request) (t : FileTree) (job : Job) (start : FileTree)
    (listings : List Path) : Prop where
  output : r.output = some job.output
  format : Format.ofName? r.format = some job.format
  options : job.options = optionsOf r
  warnUnknown : job.warnUnknown = r.warnUnknown
  directories : t.makeDirectories job.output = .ok start
  selected : (Inputs.expand start r.files).2 = .ok listings

theorem Reaches.run_eq (h : Reaches r t job start listings) :
    (run r t).failure = (job.processAll start listings).failure ∧
      (run r t).tree = (job.processAll start listings).tree := by
  obtain ⟨output, format, options, warnUnknown⟩ := job
  obtain ⟨houtput, hformat, rfl, rfl, hmake, hselected⟩ := h
  rw [run, houtput]
  dsimp only at hmake hformat ⊢
  rw [tryDirectories_of_makeDirectories hmake]
  dsimp only
  rw [hformat]
  dsimp only
  rw [Job.run]
  rcases hexpand : Inputs.expand start r.files with ⟨events, result⟩
  rw [hexpand] at hselected
  subst hselected
  exact ⟨rfl, rfl⟩

/-- A request that does not get as far as its listings fails, and leaves what the attempt to make
its output directory leaves. -/
theorem run_of_not_reaches (h : ∀ job start listings, ¬Reaches r t job start listings) :
    (run r t).failure.isSome ∧ ((run r t).tree = t ∨
      ∃ output, r.output = some output ∧ (run r t).tree = (t.tryDirectories output).1) := by
  rw [run]
  cases houtput : r.output with
  | none => exact ⟨rfl, .inl rfl⟩
  | some output =>
    dsimp only
    rcases htry : t.tryDirectories output with ⟨start, _ | e⟩
    case some => exact ⟨rfl, .inr ⟨output, rfl, congrArg Prod.fst htry.symm⟩⟩
    case none =>
      have hmake : t.makeDirectories output = .ok start := by rw [makeDirectories, htry]
      cases hformat : Format.ofName? r.format with
      | none => exact ⟨rfl, .inr ⟨output, rfl, congrArg Prod.fst htry.symm⟩⟩
      | some format =>
        dsimp only
        rw [Job.run]
        rcases hexpand : Inputs.expand start r.files with ⟨events, _ | listings⟩
        · exact ⟨rfl, .inr ⟨output, rfl, congrArg Prod.fst htry.symm⟩⟩
        · exact absurd ⟨houtput, hformat, rfl, rfl, hmake, congrArg Prod.snd hexpand⟩
            (h ⟨output, format, optionsOf r, r.warnUnknown⟩ start listings)

/-- Whatever becomes of a request that gets to its listings, pages of some of them are written. -/
theorem Reaches.exists_written (h : Reaches r t job start listings) :
    ∃ done, done <+: listings ∧ Written job (job.pages start done) start (run r t).tree := by
  rw [h.run_eq.2]
  cases hfailure : (job.processAll start listings).failure with
  | none => exact ⟨listings, List.prefix_rfl, Job.written_pages hfailure⟩
  | some f =>
    obtain ⟨k, hk⟩ := Job.failure_processAll_iff.1 hfailure
    rw [hk.tree_eq]
    exact ⟨listings.take k, List.take_prefix k listings, Job.written_pages hk.before⟩

/-- Once the output directory is made, nothing changes but pages of the listings, and a page takes
the place of no directory. -/
theorem Reaches.of_changed {loc : Location} (h : Reaches r t job start listings)
    (hne : (run r t).tree.get? loc ≠ start.get? loc) :
    t.get? loc ≠ some .directory ∧ (∃ text, (run r t).tree.get? loc = some (.file (.text text))) ∧
      ∃ q ∈ listings, (run r t).tree.locate (job.pagePath q) = .ok loc := by
  obtain ⟨done, hdone, hwritten⟩ := h.exists_written
  obtain ⟨page, hmem, hlocate⟩ := hwritten.changed loc hne
  obtain ⟨q, hq, heq⟩ := Job.exists_listing_of_mem_pages hmem
  obtain ⟨text, htext⟩ := hwritten.exists_text hmem hlocate
  refine ⟨fun hdirectory ↦ ?_, ⟨text, htext⟩, q, hdone.subset hq,
    heq ▸ hwritten.directories.right.locate hlocate⟩
  have hmade := (keeps_makeDirectories h.directories).entry loc .directory hdirectory
  have hkept := hwritten.directories.right.directory loc hmade
  rw [htext] at hkept
  cases hkept

/-! ## The effect of a run -/

theorem workingDirectory_run (r : CommandLine.Request) (t : FileTree) :
    (run r t).tree.workingDirectory = t.workingDirectory := by
  by_cases hreaches : ∃ job start listings, Reaches r t job start listings
  · obtain ⟨job, start, listings, hreaches⟩ := hreaches
    obtain ⟨_, -, hwritten⟩ := hreaches.exists_written
    exact hwritten.directories.right.workingDirectory.trans
      (keeps_makeDirectories hreaches.directories).workingDirectory
  · simp only [not_exists] at hreaches
    rcases (run_of_not_reaches hreaches).2 with htree | ⟨output, -, htree⟩
    · rw [htree]
    · rw [htree, (adds_tryDirectories t output).workingDirectory]

/-- What a run changes, whether it succeeds or fails.  The working directory stays where it is.
Where the tree differs from the one that the run began with, there is a new directory on the path of
the output directory, or the text of a page of one of the listings that the arguments select; a page
takes the place of no directory.  A run that does not get as far as its listings fails and changes
no file.  A run that gets there fails exactly when a listing does after all listings before it were
processed, and then leaves the tree that these leave: of their pages, the last one at each path is
there as it was written, and nothing but their files has changed since the output directory was
made. -/
theorem run_effect (r : CommandLine.Request) (t : FileTree) :
    (run r t).tree.workingDirectory = t.workingDirectory ∧
    (∀ loc, (run r t).tree.get? loc ≠ t.get? loc →
      (t.get? loc = none ∧ (run r t).tree.get? loc = some .directory ∧
        ∃ output, r.output = some output ∧ ∃ pieces, pieces <+: output.pieces ∧
          (run r t).tree.follow (t.origin output) pieces = .ok loc) ∨
      (t.get? loc ≠ some .directory ∧
        (∃ text, (run r t).tree.get? loc = some (.file (.text text))) ∧
        ∃ job start listings, Reaches r t job start listings ∧
          ∃ q ∈ listings, (run r t).tree.locate (job.pagePath q) = .ok loc)) ∧
    ((∀ job start listings, ¬Reaches r t job start listings) →
      (run r t).failure.isSome ∧
        ∀ loc c, (run r t).tree.get? loc = some (.file c) ↔ t.get? loc = some (.file c)) ∧
    ∀ job start listings, Reaches r t job start listings →
      (∀ f, (run r t).failure = some f ↔ ∃ k, job.FailsAt start listings k f) ∧
      ∀ k f, job.FailsAt start listings k f →
        (run r t).tree = (job.processAll start (listings.take k)).tree ∧
        (∀ path text, (job.pages start (listings.take k)).reverse.lookup path = some text →
          (run r t).tree.read path = .ok text) ∧
        ∀ loc, (run r t).tree.get? loc ≠ start.get? loc →
          ∃ page ∈ job.pages start (listings.take k), start.locate page.1 = .ok loc := by
  refine ⟨workingDirectory_run r t, fun loc hne ↦ ?_, fun hnever ↦ ?_,
    fun job start listings hreaches ↦ ⟨fun f ↦ ?_, ?_⟩⟩
  · by_cases hreaches : ∃ job start listings, Reaches r t job start listings
    · obtain ⟨job, start, listings, hreaches⟩ := hreaches
      by_cases hpage : (run r t).tree.get? loc = start.get? loc
      · rw [hpage] at hne ⊢
        obtain ⟨hnone, hdirectory, pieces, hpieces, hfollow⟩ :=
          (adds_makeDirectories hreaches.directories).added loc hne
        obtain ⟨_, -, hwritten⟩ := hreaches.exists_written
        exact .inl ⟨hnone, hdirectory, job.output, hreaches.output, pieces, hpieces,
          hwritten.directories.right.follow hfollow⟩
      · obtain ⟨hdirectory, htext, hlisting⟩ := hreaches.of_changed hpage
        exact .inr ⟨hdirectory, htext, job, start, listings, hreaches, hlisting⟩
    · simp only [not_exists] at hreaches
      rcases (run_of_not_reaches hreaches).2 with htree | ⟨output, houtput, htree⟩
      · exact absurd (congrArg (get? · loc) htree) hne
      · rw [htree] at hne ⊢
        obtain ⟨hnone, hdirectory, pieces, hpieces, hfollow⟩ :=
          (adds_tryDirectories t output).added loc hne
        exact .inl ⟨hnone, hdirectory, output, houtput, pieces, hpieces, hfollow⟩
  · obtain ⟨hfailure, htree⟩ := run_of_not_reaches hnever
    refine ⟨hfailure, fun loc c ↦ ?_⟩
    rcases htree with htree | ⟨output, -, htree⟩
    · rw [htree]
    · rw [htree]
      exact (adds_tryDirectories t output).get?_eq_file_iff
  · rw [hreaches.run_eq.1]
    exact Job.failure_processAll_iff
  · intro k f hfails
    have hwritten := Job.written_pages hfails.before
    rw [hreaches.run_eq.2, hfails.tree_eq]
    exact ⟨rfl, hwritten.whole, hwritten.changed⟩

/-- A listing, and a file that holds no text. -/
def oneReadable : FileTree :=
  (FileTree.addFile { workingDirectory := ["home".toList] } ["a.json".toList]
    (.text "[\x7b\"name\":\"f\"\x7d]".toList)).addFile ["b.json".toList] .bytes

/-- A request for the pages of both, which go to a directory elsewhere. -/
def readBoth : CommandLine.Request :=
  ⟨["b.json".toList, "/home/a.json".toList], some "/pages/new".toList, "markdown".toList, [],
    false, false, false⟩

/-- The second listing cannot be read; the page of the first one is there. -/
theorem run_effect_unreadable :
    let job : Job := ⟨"/pages/new".toList, .markdown, optionsOf readBoth, false⟩
    let start := (oneReadable.put ["pages".toList] .directory).put
      ["pages".toList, "new".toList] .directory
    let listings : List Path := ["/home/a.json".toList, "b.json".toList]
    let f := Failure.unreadable "b.json".toList .notText
    Reaches readBoth oneReadable job start listings ∧ job.FailsAt start listings 1 f ∧
      (run readBoth oneReadable).failure = some f ∧
      (run readBoth oneReadable).tree = (job.processAll start ["/home/a.json".toList]).tree ∧
      (run readBoth oneReadable).tree.read "/pages/new/a.md".toList =
        .ok (job.pageOf start "/home/a.json".toList) ∧
      ∀ loc, (run readBoth oneReadable).tree.get? loc ≠ start.get? loc →
        start.locate "/pages/new/a.md".toList = .ok loc := by
  intro job start listings f
  have hreaches : Reaches readBoth oneReadable job start listings :=
    ⟨rfl, rfl, rfl, rfl, rfl, rfl⟩
  have hlocate : (job.processAll start (listings.take 1)).tree.locate "b.json".toList =
      .ok ["home".toList, "b.json".toList] := by decide +kernel
  have hbytes : (job.processAll start (listings.take 1)).tree.get?
      ["home".toList, "b.json".toList] = some (.file .bytes) := by decide +kernel
  have hfails : job.FailsAt start listings 1 f := by
    refine ⟨by decide +kernel, _, rfl, ?_⟩
    rw [Job.process, FileTree.read, hlocate]
    dsimp only [Except.bind]
    rw [hbytes]
    rfl
  have hpages : job.pages start (listings.take 1) =
      [("/pages/new/a.md".toList, job.pageOf start "/home/a.json".toList)] := by decide +kernel
  obtain ⟨-, -, -, heffect⟩ := run_effect readBoth oneReadable
  obtain ⟨hfailure, hlisting⟩ := heffect job start listings hreaches
  obtain ⟨htree, hwhole, hchanged⟩ := hlisting 1 f hfails
  rw [hpages] at hwhole hchanged
  refine ⟨hreaches, hfails, (hfailure f).2 ⟨1, hfails⟩, htree, hwhole _ _ rfl, ?_⟩
  intro loc hne
  obtain ⟨page, hpage, hlocate⟩ := hchanged loc hne
  rwa [List.mem_singleton.1 hpage] at hlocate

end DocComment.Pages
