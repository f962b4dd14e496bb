import DocComment.Inputs
import DocComment.Proofs.FileTree.Follow
import DocComment.Proofs.Path.Order

/-!
# The files that arguments select

What a single argument selects is a relation with one constructor for each kind of argument
(`Inputs.Selects`).  The arguments are taken one after the other, so a path is gathered when one of
them selects it (`Inputs.mem_gather`), and gathering fails only if one of them is a malformed
pattern (`Inputs.exists_gather_iff`).  Neither depends on the order of the arguments or on how often
one of them is given; with what sorting does to the paths, the input files are a sorted set
(`Inputs.sorted_and_mem_iff_of_expand`).
-/

namespace DocComment

theorem map_eq_ok_iff {ε α β : Type} {x : Except ε α} {f : α → β} {b : β} :
    x.map f = .ok b ↔ ∃ a, x = .ok a ∧ f a = b := by
  cases x with
  | error e => exact iff_of_false nofun nofun
  | ok a => simp [Except.map]

namespace FileTree

variable {t : FileTree} {p : Path}

theorem isFile_eq_false (h : t.isDirectory p = true) : t.isFile p = false := by
  rw [isFile, h, Bool.not_true, Bool.and_false]

/-- Whatever is there is a file or a directory. -/
theorem hasEntry_eq_false_iff :
    t.hasEntry p = false ↔ t.isFile p = false ∧ t.isDirectory p = false := by
  rw [hasEntry, isFile, isDirectory]
  cases t.entry? p with
  | none => exact iff_of_true rfl ⟨rfl, rfl⟩
  | some entry => cases entry <;> simp

end FileTree

namespace Inputs

variable {t : FileTree} {argument p : Path} {arguments rest gathered files : List Path}

/-! ## One argument -/

/-- An argument that leads to a file selects it, and one that leads to a directory selects the files
directly in it with the extension of a listing.  If nothing is there, the argument is a pattern, and
it selects the files among what matches it. -/
inductive Selects (t : FileTree) (argument : Path) : Path → Prop where
  | file (hfile : t.isFile argument = true) : Selects t argument argument
  | listing {loc : Location} {name : Text} {entry : Entry}
      (hdirectory : t.isDirectory argument = true) (hlocate : t.locate argument = .ok loc)
      (hentry : t.get? (loc ++ [name]) = some entry)
      (hextension : (argument.join name).extension? = some listingExtension)
      (hfile : t.isFile (argument.join name) = true) : Selects t argument (argument.join name)
  | matched {pattern : Wildcard.PathPattern} {p : Path} (hentry : t.hasEntry argument = false)
      (hpattern : Wildcard.PathPattern.ofText argument = .ok pattern)
      (hselect : p ∈ pattern.select t) (hfile : t.isFile p = true) : Selects t argument p

theorem mem_inDirectory {directory : Path} :
    p ∈ inDirectory t directory ↔ ∃ loc name entry, t.locate directory = .ok loc ∧
      t.get? (loc ++ [name]) = some entry ∧ directory.join name = p ∧
      p.extension? = some listingExtension ∧ t.isFile p = true := by
  rw [inDirectory]
  cases t.locate directory with
  | error e => exact iff_of_false List.not_mem_nil nofun
  | ok loc =>
    simp only [List.mem_filter, List.mem_map, FileTree.mem_names_iff, Bool.and_eq_true,
      decide_eq_true_eq]
    constructor
    · rintro ⟨⟨name, ⟨entry, hentry⟩, hjoin⟩, hextension, hfile⟩
      exact ⟨loc, name, entry, rfl, hentry, hjoin, hextension, hfile⟩
    · rintro ⟨_, name, entry, ⟨⟩, hentry, hjoin, hextension, hfile⟩
      exact ⟨⟨name, ⟨entry, hentry⟩, hjoin⟩, hextension, hfile⟩

theorem ofPattern_eq_ok_iff {pattern : Text} {selected : List Path} :
    ofPattern t pattern = .ok selected ↔
      ∃ parsed, Wildcard.PathPattern.ofText pattern = .ok parsed ∧
        (parsed.select t).filter t.isFile = selected := by
  rw [ofPattern, map_eq_ok_iff]

theorem selects_iff :
    Selects t argument p ↔ ∃ selected, ofArgument t argument = .ok selected ∧ p ∈ selected := by
  constructor
  · rintro (hfile | ⟨hdirectory, hlocate, hentry, hextension, hfile⟩ |
      ⟨hentry, hpattern, hselect, hfile⟩)
    · exact ⟨[argument], if_pos hfile, List.mem_singleton_self argument⟩
    · refine ⟨inDirectory t argument, ?_, ?_⟩
      · rw [ofArgument, FileTree.isFile_eq_false hdirectory, hdirectory]
        rfl
      · exact mem_inDirectory.2 ⟨_, _, _, hlocate, hentry, rfl, hextension, hfile⟩
    · obtain ⟨hnofile, hnodirectory⟩ := FileTree.hasEntry_eq_false_iff.1 hentry
      refine ⟨_, ?_, List.mem_filter.2 ⟨hselect, hfile⟩⟩
      rw [ofArgument, hnofile, hnodirectory]
      exact ofPattern_eq_ok_iff.2 ⟨_, hpattern, rfl⟩
  · rintro ⟨selected, h, hp⟩
    rw [ofArgument] at h
    split at h
    case isTrue hfile =>
      cases h
      cases List.mem_singleton.1 hp
      exact .file hfile
    case isFalse hnofile =>
      split at h
      case isTrue hdirectory =>
        cases h
        obtain ⟨loc, name, entry, hlocate, hentry, rfl, hextension, hfile⟩ := mem_inDirectory.1 hp
        exact .listing hdirectory hlocate hentry hextension hfile
      case isFalse hnodirectory =>
        obtain ⟨pattern, hpattern, rfl⟩ := ofPattern_eq_ok_iff.1 h
        obtain ⟨hselect, hfile⟩ := List.mem_filter.1 hp
        rw [Bool.not_eq_true] at hnofile hnodirectory
        exact .matched (FileTree.hasEntry_eq_false_iff.2 ⟨hnofile, hnodirectory⟩) hpattern
          hselect hfile

/-! ## All arguments -/

theorem gather_cons_eq_ok_iff : (gather t (argument :: rest)).2 = .ok gathered ↔
    ∃ selected more, ofArgument t argument = .ok selected ∧ (gather t rest).2 = .ok more ∧
      selected ++ more = gathered := by
  rw [gather]
  cases ofArgument t argument with
  | error e => exact iff_of_false nofun nofun
  | ok selected =>
    simp only [map_eq_ok_iff, Except.ok.injEq]
    exact ⟨fun ⟨more, h⟩ ↦ ⟨selected, more, rfl, h⟩, fun ⟨_, more, heq, h⟩ ↦ ⟨more, heq ▸ h⟩⟩

theorem exists_gather_iff : (∃ gathered, (gather t arguments).2 = .ok gathered) ↔
    ∀ argument ∈ arguments, ∃ selected, ofArgument t argument = .ok selected := by
  induction arguments with
  | nil => exact iff_of_true ⟨[], rfl⟩ nofun
  | cons argument rest ih =>
    simp only [gather_cons_eq_ok_iff, List.forall_mem_cons, ← ih]
    constructor
    · rintro ⟨_, selected, more, hselected, hmore, -⟩
      exact ⟨⟨selected, hselected⟩, more, hmore⟩
    · rintro ⟨⟨selected, hselected⟩, more, hmore⟩
      exact ⟨_, selected, more, hselected, hmore, rfl⟩

theorem mem_gather (h : (gather t arguments).2 = .ok gathered) :
    p ∈ gathered ↔ ∃ argument ∈ arguments, Selects t argument p := by
  induction arguments generalizing gathered with
  | nil =>
    cases h
    simp
  | cons argument rest ih =>
    obtain ⟨selected, more, hselected, hmore, rfl⟩ := gather_cons_eq_ok_iff.1 h
    have hargument : Selects t argument p ↔ p ∈ selected := by
      simp [selects_iff, hselected]
    simp only [List.mem_append, ih hmore, List.mem_cons, exists_eq_or_imp, hargument]

theorem expand_eq_ok_iff : (expand t arguments).2 = .ok files ↔
    ∃ gathered, (gather t arguments).2 = .ok gathered ∧ Path.sort gathered = files := by
  rw [expand, map_eq_ok_iff]

/-- The input files are a sorted set.  They are strictly increasing, so no two of them have the same
components; a path is among them, in one spelling or another, when one of the arguments selects it;
and arguments that are the same but for their order and their number of times select the same. -/
theorem sorted_and_mem_iff_of_expand (h : (expand t arguments).2 = .ok files) :
    files.Pairwise Path.Precedes ∧ (files.map Path.components).Nodup ∧
      (∀ p : Path, (∃ file ∈ files, file.components = p.components) ↔
        ∃ argument ∈ arguments, ∃ q, Selects t argument q ∧ q.components = p.components) ∧
      ∀ others : List Path, (∀ argument, argument ∈ others ↔ argument ∈ arguments) →
        ∃ same, (expand t others).2 = .ok same ∧
          same.map Path.components = files.map Path.components := by
  obtain ⟨gathered, hgathered, rfl⟩ := expand_eq_ok_iff.1 h
  have hsorted := Path.pairwise_sort gathered
  refine ⟨hsorted, Path.nodup_map_components hsorted, fun p ↦ ?_, fun others hothers ↦ ?_⟩
  · rw [← List.mem_map, Path.mem_map_components_sort, List.mem_map]
    simp only [mem_gather hgathered]
    constructor
    · rintro ⟨q, ⟨argument, hargument, hselects⟩, hcomponents⟩
      exact ⟨argument, hargument, q, hselects, hcomponents⟩
    · rintro ⟨argument, hargument, q, hselects, hcomponents⟩
      exact ⟨q, ⟨argument, hargument, hselects⟩, hcomponents⟩
  · obtain ⟨more, hmore⟩ := exists_gather_iff.2 fun argument hargument ↦
      exists_gather_iff.1 ⟨gathered, hgathered⟩ argument ((hothers argument).1 hargument)
    have hmem : ∀ p, p ∈ more ↔ p ∈ gathered := fun p ↦ by
      simp only [mem_gather hmore, mem_gather hgathered, hothers]
    refine ⟨Path.sort more, expand_eq_ok_iff.2 ⟨more, hmore, rfl⟩, ?_⟩
    apply Path.map_components_sort_eq
    simp only [List.mem_map, hmem, implies_true]

/-- Two directories with a listing each, and one of them with notes as well. -/
def listingsAndNotes : FileTree :=
  ((FileTree.addFile { workingDirectory := ["home".toList] } ["a-b".toList, "x.json".toList]
    (.text "[]".toList)).addFile [['a'], "x.json".toList] (.text "[]".toList)).addFile
    [['a'], "notes.txt".toList] (.text [])

/-- The first argument and the pattern spell the same path differently, and the pattern and the
directory both select the other one, which comes first although `/` is a later character than
`-`.  The pattern from the root and the directory next to the working directory select by paths of
their own. -/
theorem sorted_and_mem_iff_of_expand_listingsAndNotes :
    let arguments : List Path := ["a-b//x.json".toList, "a*/x.json".toList, ['a'],
      "/*/a?b/x.json".toList, "../home/a".toList]
    let files : List Path := ["/home/a-b/x.json".toList, "../home/a/x.json".toList,
      "a/x.json".toList, "a-b//x.json".toList]
    (expand listingsAndNotes arguments).2 = .ok files ∧
      files.Pairwise Path.Precedes ∧ (files.map Path.components).Nodup ∧
      (∀ p : Path, (∃ file ∈ files, file.components = p.components) ↔
        ∃ argument ∈ arguments, ∃ q, Selects listingsAndNotes argument q ∧
          q.components = p.components) ∧
      ∃ same, (expand listingsAndNotes (arguments.reverse ++ arguments)).2 = .ok same ∧
        same.map Path.components = files.map Path.components := by
  intro arguments files
  have hexpand : (expand listingsAndNotes arguments).2 = .ok files := by decide +kernel
  obtain ⟨hsorted, hnodup, hmem, hothers⟩ := sorted_and_mem_iff_of_expand hexpand
  refine ⟨hexpand, hsorted, hnodup, hmem, hothers _ fun argument ↦ ?_⟩
  rw [List.mem_append, List.mem_reverse, or_self]

end Inputs

end DocComment
