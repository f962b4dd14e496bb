import DocComment.Pages
import DocComment.Proofs.FileTree.Follow
import DocComment.Proofs.Text.Trim

/-!
# Names of pages

A page is called after the stem of its listing and ends with the extension of its format, and it
stands directly in the output directory.  Its location is therefore that of the output directory
with one name more (`Job.location_page`), and two pages have the same location exactly when their
listings have the same stem.

A listing may itself lie where a page goes.  Then its stem is that of the page
(`Job.stem_of_location_page`), so that its own page goes there, too: no listing lies where only the
pages of others go.
-/

namespace DocComment

namespace Path

/-! ## Pieces of a joined path -/

theorem slash_notMem_of_mem_pieces {p : Path} {piece : Text} (h : piece ∈ p.pieces) :
    '/' ∉ piece :=
  Text.notMem_of_mem_splitOn h

/-- A name in a directory is the last piece of its path, and the others depend on the directory
only. -/
theorem pieces_join (directory : Path) :
    ∃ above, ∀ name : Text, '/' ∉ name → (directory.join name).pieces = above ++ [name] := by
  by_cases hnil : directory = []
  · refine ⟨[], fun name hname ↦ ?_⟩
    rw [join, if_pos (.inl hnil), hnil]
    exact List.splitOn_eq_singleton hname
  by_cases hslash : directory.getLast? = some '/'
  · obtain ⟨outer, rfl⟩ := List.getLast?_eq_some_iff.1 hslash
    refine ⟨outer.splitOn '/', fun name hname ↦ ?_⟩
    rw [join, if_pos (.inr hslash), pieces, List.append_assoc, List.singleton_append,
      List.splitOn_append_cons_self, List.splitOn_eq_singleton hname]
  · refine ⟨directory.splitOn '/', fun name hname ↦ ?_⟩
    rw [join, if_neg (not_or.2 ⟨hnil, hslash⟩), pieces, List.splitOn_append_cons_self,
      List.splitOn_eq_singleton hname]

/-- A name in a directory begins where the directory does. -/
theorem isAbsolute_join (directory : Path) {name : Text} (hname : '/' ∉ name) :
    (directory.join name).isAbsolute = directory.isAbsolute := by
  cases directory with
  | nil =>
    rw [join, if_pos (.inl rfl), List.nil_append, isAbsolute, isAbsolute]
    cases name with
    | nil => rfl
    | cons c rest => simpa using Ne.symm (List.ne_of_not_mem_cons hname)
  | cons c rest =>
    rw [join]
    split <;> rfl

theorem join_injective (directory : Path) {name other : Text}
    (h : directory.join name = directory.join other) : name = other := by
  rw [join, join] at h
  split at h
  case isTrue => exact List.append_cancel_left h
  case isFalse => exact (List.cons.inj (List.append_cancel_left h)).2

/-! ## File names and stems -/

/-- A path that ends with a name leads to a file of that name. -/
theorem fileName?_of_pieces {p : Path} {init : List Text} {name : Text}
    (h : p.pieces = init ++ [name]) (hname : FileTree.IsName name) : p.fileName? = some name := by
  have hlast : [name].filterMap Component.ofPiece? = [.name name] := by
    rw [List.filterMap_cons_some hname, List.filterMap_nil]
  rw [fileName?, components, h, List.filterMap_append, hlast, ← List.append_assoc,
    List.getLast?_concat]

/-- A file name is one of the pieces of the path. -/
theorem mem_pieces_of_fileName? {p : Path} {name : Text} (h : p.fileName? = some name) :
    name ∈ p.pieces ∧ name ≠ [] := by
  have hcomponent : Component.name name ∈ p.components := by
    rw [fileName?] at h
    split at h
    case h_1 n hlast =>
      cases h
      exact List.mem_of_getLast? hlast
    case h_2 => cases h
  have hpieces : Component.name name ∈ p.pieces.filterMap Component.ofPiece? := by
    rw [components, List.mem_append] at hcomponent
    refine hcomponent.resolve_left fun hstart ↦ ?_
    split at hstart
    · cases List.mem_singleton.1 hstart
    · split at hstart
      · cases List.mem_singleton.1 hstart
      · cases hstart
  obtain ⟨piece, hmem, hpiece⟩ := List.mem_filterMap.1 hpieces
  rw [Component.ofPiece?] at hpiece
  split at hpiece
  case isTrue => cases hpiece
  case isFalse hstep =>
    split at hpiece
    case isTrue => cases hpiece
    case isFalse =>
      cases hpiece
      exact ⟨hmem, fun hnil ↦ hstep (.inl hnil)⟩

/-- A name with an extension is cut before its last dot. -/
theorem cutName_append {stem extension : Text} (hstem : stem ≠ []) (hdot : '.' ∉ extension) :
    cutName (stem ++ '.' :: extension) = (stem, some extension) := by
  have hreverse : (stem ++ '.' :: extension).reverse =
      extension.reverse ++ '.' :: stem.reverse := by
    simp
  have hextension :
      ((stem ++ '.' :: extension).reverse.takeWhile (· ≠ '.')).reverse = extension := by
    rw [hreverse, List.takeWhile_append_of_pos, List.takeWhile_cons_of_neg (by simp),
      List.append_nil, List.reverse_reverse]
    intro c hc
    exact decide_eq_true fun heq ↦ hdot (heq ▸ List.mem_reverse.1 hc)
  have hlength : (stem ++ '.' :: extension).length - extension.length - 1 = stem.length := by
    rw [List.length_append, List.length_cons]
    omega
  rw [cutName, hextension, hlength, List.take_left, if_neg hstem]

/-- The stem of a name is the name or a beginning of it, and never empty. -/
theorem cutName_fst {name : Text} (h : name ≠ []) :
    (cutName name).1 <+: name ∧ (cutName name).1 ≠ [] := by
  rw [cutName]
  split
  case isTrue => exact ⟨List.prefix_rfl, h⟩
  case isFalse hstem => exact ⟨List.take_prefix _ _, hstem⟩

end Path

/-! ## Pages -/

/-- An extension is a plain ending: it has neither dot nor slash, and is no single character. -/
theorem Format.extension_spec (f : Format) :
    '.' ∉ f.extension ∧ '/' ∉ f.extension ∧ 2 ≤ f.extension.length := by
  cases f <;> decide

namespace Pages

open FileTree

/-- The stem that the page of a listing is called after. -/
def stem (listing : Path) : Text := listing.stem?.getD "index".toList

theorem stem_ne_nil (listing : Path) : stem listing ≠ [] ∧ '/' ∉ stem listing := by
  rw [stem, Path.stem?]
  cases hname : listing.fileName? with
  | none => decide
  | some name =>
    obtain ⟨hmem, hnil⟩ := Path.mem_pieces_of_fileName? hname
    obtain ⟨hinit, hstem⟩ := Path.cutName_fst hnil
    exact ⟨hstem, fun hslash ↦ Path.slash_notMem_of_mem_pieces hmem (hinit.subset hslash)⟩

/-- The name of a page. -/
def Job.pageName (job : Job) (listing : Path) : Text :=
  stem listing ++ '.' :: job.format.extension

variable (job : Job) {t : FileTree} {loc : Location} {p q : Path}

theorem Job.slash_notMem_pageName (listing : Path) : '/' ∉ job.pageName listing := by
  intro h
  rcases List.mem_append.1 h with h | h
  · exact (stem_ne_nil listing).2 h
  · rcases List.mem_cons.1 h with h | h
    · cases h
    · exact job.format.extension_spec.2.1 h

theorem Job.isName_pageName (listing : Path) : IsName (job.pageName listing) := by
  have hlength : 3 ≤ (job.pageName listing).length := by
    rw [Job.pageName, List.length_append, List.length_cons]
    have := job.format.extension_spec.2.2
    omega
  have hne : ∀ short : Text, short.length < 3 → job.pageName listing ≠ short := by
    intro short hshort heq
    rw [heq] at hlength
    omega
  rw [IsName, Path.Component.ofPiece?, if_neg, if_neg (hne Path.dotDot (by decide))]
  exact not_or.2 ⟨hne [] (by decide), hne Path.dot (by decide)⟩

theorem Job.pagePath_eq (listing : Path) :
    job.pagePath listing = job.output.join (job.pageName listing) := rfl

/-- The path of a page begins where that of the output directory does. -/
theorem Job.origin_pagePath (t : FileTree) (listing : Path) :
    t.origin (job.pagePath listing) = t.origin job.output := by
  rw [origin, origin, job.pagePath_eq,
    Path.isAbsolute_join job.output (job.slash_notMem_pageName listing)]

/-- A page stands under its name in a directory that is the same for all pages. -/
theorem Job.location_page (t : FileTree) :
    ∃ above, ∀ p loc, t.locate (job.pagePath p) = .ok loc →
      ∃ directory, t.follow (t.origin job.output) above = .ok directory ∧
        loc = directory ++ [job.pageName p] := by
  obtain ⟨above, hpieces⟩ := Path.pieces_join job.output
  refine ⟨above, fun p loc h ↦ ?_⟩
  obtain ⟨-, -, hfollow⟩ := locate_eq_ok_iff.1 h
  rw [job.origin_pagePath, job.pagePath_eq, hpieces _ (job.slash_notMem_pageName p)] at hfollow
  obtain ⟨directory, hdirectory, henter⟩ := follow_concat_eq_ok_iff.1 hfollow
  exact ⟨directory, hdirectory, eq_append_of_enter (job.isName_pageName p) henter⟩

theorem Job.stem_eq_of_pageName_eq (h : job.pageName p = job.pageName q) : stem p = stem q :=
  List.append_cancel_right h

theorem Job.pagePath_eq_iff : job.pagePath p = job.pagePath q ↔ stem p = stem q := by
  constructor
  · intro h
    exact job.stem_eq_of_pageName_eq (Path.join_injective job.output h)
  · intro h
    rw [job.pagePath_eq, job.pagePath_eq, Job.pageName, Job.pageName, h]

/-- Pages in one place are pages of listings with one stem. -/
theorem Job.stem_eq_of_location_page (hp : t.locate (job.pagePath p) = .ok loc)
    (hq : t.locate (job.pagePath q) = .ok loc) : stem p = stem q := by
  obtain ⟨above, hlocation⟩ := job.location_page t
  obtain ⟨directory, hdirectory, hloc⟩ := hlocation p loc hp
  obtain ⟨directory', hdirectory', hloc'⟩ := hlocation q loc hq
  rw [hdirectory] at hdirectory'
  cases hdirectory'
  rw [hloc'] at hloc
  exact job.stem_eq_of_pageName_eq (List.cons.inj (List.append_cancel_left hloc)).1.symm

/-- A file has a stem. -/
theorem stem?_of_file {c : Content} (hp : t.locate p = .ok loc)
    (hfile : t.get? loc = some (.file c)) : p.stem? = some (stem p) := by
  obtain ⟨init, above, name, hpieces, hname, -⟩ := pieces_of_file hp hfile
  rw [stem, Path.stem?, Path.fileName?_of_pieces hpieces hname]
  rfl

/-- A file that lies where a page goes has the stem of the page's listing. -/
theorem Job.stem_of_location_page {c : Content} (hp : t.locate p = .ok loc)
    (hfile : t.get? loc = some (.file c)) (hq : t.locate (job.pagePath q) = .ok loc) :
    stem p = stem q := by
  obtain ⟨init, above, name, hpieces, hname, hloc⟩ := pieces_of_file hp hfile
  obtain ⟨above', hlocation⟩ := job.location_page t
  obtain ⟨directory, -, hloc'⟩ := hlocation q loc hq
  have hpage : name = job.pageName q :=
    List.singleton_inj.1 (List.append_inj_right' (hloc.symm.trans hloc') rfl)
  rw [stem, Path.stem?, Path.fileName?_of_pieces hpieces hname, hpage, Job.pageName,
    Option.map_some, Option.getD_some,
    Path.cutName_append (stem_ne_nil q).1 job.format.extension_spec.1]

end Pages

end DocComment
