import DocComment.FileTree
import Mathlib.Data.List.Basic
import Mathlib.Data.List.Induction

/-!
# Paths in related trees

Where a path leads is decided by the working directory and by what directories there are, so a tree
that has those of another one takes every path of it to the same place (`HasDirectories.locate`).
Two relations follow from this.  A tree *keeps* another one when every entry is still there; what
could be read can then be read as before (`Keeps.read`).  Two trees have the *same directories* when
each has those of the other; this is how a tree is related to the one in which a file has been
written, whichever it was (`write_eq_ok`, `SameDirectories.put_file`).

A path that leads to a file ends with the name of the file (`pieces_of_file`): after a dot,
two dots or a slash there is a directory, since all directories on the way had to be there.

Two dots lead up and names lead down, so a path that goes up to where two locations part and down
again by name leads from the one to the other (`follow_stepsTo`).
-/

namespace DocComment

/-- A computation in two steps succeeds when both steps do. -/
theorem bind_eq_ok_iff {ε α β : Type} {x : Except ε α} {f : α → Except ε β} {b : β} :
    x.bind f = .ok b ↔ ∃ a, x = .ok a ∧ f a = .ok b := by
  cases x with
  | error e => exact ⟨nofun, nofun⟩
  | ok a => exact ⟨fun h ↦ ⟨a, rfl, h⟩, fun ⟨_, h, hf⟩ ↦ (Except.ok.inj h) ▸ hf⟩

namespace FileTree

variable {t t' : FileTree} {loc next : Location} {pieces : List Text} {p : Path}

/-! ## Entries -/

theorem get?_of_isAbove (h : t.isAbove loc = true) : t.get? loc = some .directory :=
  if_pos h

/-- Above the working directory there are directories only. -/
theorem isAbove_of_get?_ne (h : t.get? loc ≠ some .directory) : t.isAbove loc = false := by
  rw [Bool.eq_false_iff]
  intro habove
  exact h (get?_of_isAbove habove)

theorem isAbove_iff : t.isAbove loc = true ↔ loc <+: t.workingDirectory :=
  List.isPrefixOf_iff_prefix

/-- A path begins at the working directory or above it. -/
theorem isAbove_origin (t : FileTree) (p : Path) : t.isAbove (t.origin p) = true := by
  rw [isAbove_iff, origin]
  split
  case isTrue => exact List.nil_prefix
  case isFalse => exact List.prefix_rfl

/-- Apart from the root, the directories that lead to the working directory are those above it. -/
theorem mem_map_take_iff (hloc : loc ≠ []) :
    loc ∈ (List.range t.workingDirectory.length).map (fun n ↦ t.workingDirectory.take (n + 1)) ↔
      t.isAbove loc = true := by
  rw [List.mem_map, isAbove_iff]
  constructor
  · rintro ⟨n, -, rfl⟩
    exact List.take_prefix _ _
  · intro hprefix
    have hpos := List.length_pos_iff.2 hloc
    have hlength := hprefix.length_le
    refine ⟨loc.length - 1, List.mem_range.2 (by omega), ?_⟩
    rw [Nat.sub_add_cancel hpos]
    exact (List.prefix_iff_eq_take.1 hprefix).symm

/-- Below the root, what has an entry is listed. -/
theorem mem_locations_iff (hloc : loc ≠ []) :
    loc ∈ t.locations ↔ ∃ entry, t.get? loc = some entry := by
  rw [locations, List.mem_append, mem_map_take_iff hloc, get?]
  split
  case isTrue h => exact iff_of_true (.inl h) ⟨_, rfl⟩
  case isFalse h =>
    rw [or_iff_right h, List.mem_map, ← Option.isSome_iff_exists, Option.isSome_map,
      List.find?_isSome]
    simp only [decide_eq_true_eq]

theorem mem_names_iff {name : Text} :
    name ∈ t.names loc ↔ ∃ entry, t.get? (loc ++ [name]) = some entry := by
  have hne : loc ++ [name] ≠ [] := List.append_ne_nil_of_right_ne_nil loc (List.cons_ne_nil name [])
  rw [← mem_locations_iff hne, names, List.mem_filterMap]
  constructor
  · rintro ⟨place, hplace, hname⟩
    split at hname
    case isTrue hloc =>
      have heq : loc ++ [name] = place := hloc ▸ List.dropLast_append_getLast? name hname
      exact heq ▸ hplace
    case isFalse => cases hname
  · intro hplace
    refine ⟨_, hplace, ?_⟩
    rw [if_pos List.dropLast_concat, List.getLast?_concat]

/-! ## Following pieces -/

/-- A step is taken from a directory only. -/
theorem get?_of_enter {piece : Text} (h : t.enter loc piece = .ok next) :
    t.get? loc = some .directory := by
  rw [enter] at h
  split at h
  case h_1 => cases h
  case h_2 => cases h
  case h_3 hdirectory => exact hdirectory

/-- From a directory of both, trees take the same step. -/
theorem enter_congr (h : t.get? loc = some .directory) (h' : t'.get? loc = some .directory)
    (piece : Text) : t'.enter loc piece = t.enter loc piece := by
  rw [enter, enter, h, h']

theorem follow_append (t : FileTree) (loc : Location) (ps qs : List Text) :
    t.follow loc (ps ++ qs) = (t.follow loc ps).bind (t.follow · qs) := by
  induction ps generalizing loc with
  | nil => rfl
  | cons piece ps ih =>
    rw [List.cons_append, follow, follow]
    cases t.enter loc piece with
    | error e => rfl
    | ok next => exact ih next

/-- The last piece is a step from where the others lead. -/
theorem follow_concat_eq_ok_iff {piece : Text} :
    t.follow loc (pieces ++ [piece]) = .ok next ↔
      ∃ above, t.follow loc pieces = .ok above ∧ t.enter above piece = .ok next := by
  have hone : ∀ above, t.follow above [piece] = t.enter above piece := by
    intro above
    rw [follow]
    cases t.enter above piece <;> rfl
  rw [follow_append, bind_eq_ok_iff]
  simp only [hone]

/-- A path that is neither empty nor too long leads where its pieces lead. -/
theorem locate_eq_ok_iff : t.locate p = .ok loc ↔
    p ≠ [] ∧ p.byteSize ≤ maxPathSize ∧ t.follow (t.origin p) p.pieces = .ok loc := by
  rw [locate]
  split
  case isTrue hnil => exact iff_of_false nofun fun h ↦ h.1 hnil
  case isFalse hsome =>
    split
    case isTrue hlong => exact iff_of_false nofun fun h ↦ Nat.not_lt.2 h.2.1 hlong
    case isFalse hshort => simp [hsome, Nat.not_lt.1 hshort]

/-! ## Trees with the directories of another one -/

/-- Every directory of the first tree is one of the second, and they have the same working
directory. -/
structure HasDirectories (t t' : FileTree) : Prop where
  workingDirectory : t'.workingDirectory = t.workingDirectory
  directory : ∀ loc, t.get? loc = some .directory → t'.get? loc = some .directory

namespace HasDirectories

theorem follow (h : HasDirectories t t') (hf : t.follow loc pieces = .ok next) :
    t'.follow loc pieces = .ok next := by
  induction pieces generalizing loc with
  | nil => exact hf
  | cons piece rest ih =>
    rw [FileTree.follow, bind_eq_ok_iff] at hf ⊢
    obtain ⟨mid, henter, hrest⟩ := hf
    have hloc := get?_of_enter henter
    exact ⟨mid, (enter_congr hloc (h.directory loc hloc) piece).trans henter, ih hrest⟩

theorem origin_eq (h : HasDirectories t t') (p : Path) : t'.origin p = t.origin p := by
  rw [origin, origin, h.workingDirectory]

theorem locate (h : HasDirectories t t') (hl : t.locate p = .ok loc) : t'.locate p = .ok loc := by
  obtain ⟨hsome, hshort, hfollow⟩ := locate_eq_ok_iff.1 hl
  refine locate_eq_ok_iff.2 ⟨hsome, hshort, ?_⟩
  rw [h.origin_eq]
  exact h.follow hfollow

end HasDirectories

/-! ## Reading -/

/-- What is read is the text of the file that the path leads to. -/
theorem read_eq_ok_iff {c : Text} :
    t.read p = .ok c ↔ ∃ loc, t.locate p = .ok loc ∧ t.get? loc = some (.file (.text c)) := by
  rw [read, bind_eq_ok_iff]
  refine exists_congr fun loc ↦ and_congr_right fun _ ↦ ?_
  constructor
  · intro h
    split at h
    case h_1 content hfile =>
      cases content with
      | text c' =>
        cases h
        exact hfile
      | bytes => cases h
    case h_2 => cases h
    case h_3 => cases h
  · intro hfile
    rw [hfile]
    rfl

/-- Every entry of the first tree is one of the second, and they have the same working
directory. -/
structure Keeps (t t' : FileTree) : Prop where
  workingDirectory : t'.workingDirectory = t.workingDirectory
  entry : ∀ loc e, t.get? loc = some e → t'.get? loc = some e

namespace Keeps

theorem hasDirectories (h : Keeps t t') : HasDirectories t t' where
  workingDirectory := h.workingDirectory
  directory loc hloc := h.entry loc .directory hloc

/-- What could be read is read as before. -/
theorem read (h : Keeps t t') {c : Text} (hread : t.read p = .ok c) : t'.read p = .ok c := by
  obtain ⟨loc, hlocate, hfile⟩ := read_eq_ok_iff.1 hread
  exact read_eq_ok_iff.2 ⟨loc, h.hasDirectories.locate hlocate, h.entry loc _ hfile⟩

/-- An entry where there was none replaces nothing. -/
theorem put (h : t.get? loc = none) (e : Entry) : Keeps t (t.put loc e) := by
  refine ⟨rfl, fun other e' hother ↦ ?_⟩
  rwa [get?_put_of_ne t e]
  rintro rfl
  rw [h] at hother
  cases hother

end Keeps

/-! ## Writing -/

/-- Two trees with the same directories; their files may differ. -/
structure SameDirectories (t t' : FileTree) : Prop where
  right : HasDirectories t t'
  left : HasDirectories t' t

namespace SameDirectories

theorem refl (t : FileTree) : SameDirectories t t := ⟨⟨rfl, fun _ h ↦ h⟩, ⟨rfl, fun _ h ↦ h⟩⟩

theorem trans {t'' : FileTree} (h : SameDirectories t t') (h' : SameDirectories t' t'') :
    SameDirectories t t'' := by
  have hplace := h'.right.workingDirectory.trans h.right.workingDirectory
  constructor
  · exact ⟨hplace, fun loc hloc ↦ h'.right.directory loc (h.right.directory loc hloc)⟩
  · exact ⟨hplace.symm, fun loc hloc ↦ h.left.directory loc (h'.left.directory loc hloc)⟩

/-- A file takes the place of no directory. -/
theorem put_file (h : t.get? loc ≠ some .directory) (c : Content) :
    SameDirectories t (t.put loc (.file c)) := by
  have hloc := isAbove_of_get?_ne h
  constructor
  · refine ⟨rfl, fun other hother ↦ ?_⟩
    rwa [get?_put_of_ne t (.file c)]
    rintro rfl
    exact h hother
  · refine ⟨rfl, fun other hother ↦ ?_⟩
    by_cases hne : other = loc
    · rw [hne, get?_put_self t (.file c) hloc] at hother
      cases hother
    · rwa [get?_put_of_ne t (.file c) hne] at hother

end SameDirectories

/-- What is written is put where the path leads, in place of no directory. -/
theorem write_eq_ok {text : Text} (h : t.write p text = .ok t') :
    ∃ loc, t.locate p = .ok loc ∧ t.get? loc ≠ some .directory ∧
      t' = t.put loc (.file (.text text)) := by
  rw [write, bind_eq_ok_iff] at h
  obtain ⟨loc, hlocate, h⟩ := h
  refine ⟨loc, hlocate, ?_⟩
  split at h
  case h_1 => cases h
  case h_2 hfile =>
    split at h
    case isTrue =>
      cases h
      exact ⟨hfile, rfl⟩
    case isFalse => cases h

/-- What has been written is read. -/
theorem read_of_write {text : Text} (h : t.write p text = .ok t') : t'.read p = .ok text := by
  obtain ⟨loc, hlocate, hfile, rfl⟩ := write_eq_ok h
  rw [read_eq_ok_iff]
  refine ⟨loc, ?_, ?_⟩
  · exact (SameDirectories.put_file hfile _).right.locate hlocate
  · exact get?_put_self t _ (isAbove_of_get?_ne hfile)

/-- Trees with the same directories differ in what can be read only where an entry differs. -/
theorem SameDirectories.exists_of_read_ne (h : SameDirectories t t')
    (hne : (t'.read p).toOption ≠ (t.read p).toOption) :
    ∃ loc, t.locate p = .ok loc ∧ t'.get? loc ≠ t.get? loc := by
  rw [read, read] at hne
  cases hlocate : t.locate p with
  | ok loc =>
    rw [hlocate, h.right.locate hlocate] at hne
    refine ⟨loc, rfl, fun heq ↦ hne ?_⟩
    rw [Except.bind, Except.bind, heq]
  | error e =>
    cases hlocate' : t'.locate p with
    | ok loc =>
      rw [h.left.locate hlocate'] at hlocate
      cases hlocate
    | error e' =>
      rw [hlocate, hlocate'] at hne
      exact absurd rfl hne

/-! ## The name of a file -/

/-- A piece of a path is a name, unless it is empty or made of one dot or two. -/
def IsName (piece : Text) : Prop := Path.Component.ofPiece? piece = some (.name piece)

/-- A step leads to the entry of a name, or else it stays or leads up. -/
theorem enter_cases {piece : Text} (h : t.enter loc piece = .ok next) :
    IsName piece ∧ next = loc ++ [piece] ∨ ¬IsName piece ∧ (next = loc ∨ next = loc.up) := by
  rw [enter, get?_of_enter h] at h
  dsimp only at h
  rw [IsName, Path.Component.ofPiece?]
  split at h
  case isTrue hstay =>
    rw [if_pos hstay]
    exact .inr ⟨nofun, .inl (Except.ok.inj h).symm⟩
  case isFalse hstay =>
    rw [if_neg hstay]
    split at h
    case isTrue hup =>
      rw [if_pos hup]
      exact .inr ⟨nofun, .inr (Except.ok.inj h).symm⟩
    case isFalse hup =>
      rw [if_neg hup]
      split at h
      case isTrue => cases h
      case isFalse => exact .inl ⟨rfl, (Except.ok.inj h).symm⟩

theorem eq_append_of_enter {piece : Text} (hname : IsName piece)
    (h : t.enter loc piece = .ok next) : next = loc ++ [piece] := by
  rcases enter_cases h with ⟨-, hnext⟩ | ⟨hnot, -⟩
  · exact hnext
  · exact absurd hname hnot

/-- A location above which there are directories only. -/
def Reached (t : FileTree) (loc : Location) : Prop :=
  ∀ above, above <+: loc → above ≠ loc → t.get? above = some .directory

theorem Reached.append (h : t.Reached loc) (hloc : t.get? loc = some .directory) (piece : Text) :
    t.Reached (loc ++ [piece]) := by
  intro above habove hne
  rcases List.prefix_concat_iff.1 habove with rfl | habove
  · exact absurd rfl hne
  · by_cases heq : above = loc
    · rwa [heq]
    · exact h above habove heq

/-- What lies above a directory that was reached is one, too; the root lies above itself. -/
theorem Reached.up (h : t.Reached loc) (hloc : t.get? loc = some .directory) :
    t.Reached loc.up ∧ t.get? loc.up = some .directory := by
  by_cases hroot : loc = []
  · subst hroot
    exact ⟨h, hloc⟩
  · have hup : loc.up <+: loc := List.dropLast_prefix loc
    have hlength : loc.up.length < loc.length := by
      rw [Location.up, List.length_dropLast]
      exact Nat.sub_lt (List.length_pos_iff.2 hroot) Nat.one_pos
    have hbelow : ∀ above, above <+: loc.up → t.get? above = some .directory := by
      intro above habove
      refine h above (habove.trans hup) fun heq ↦ ?_
      exact Nat.not_lt.2 (heq ▸ habove.length_le) hlength
    exact ⟨fun above habove _ ↦ hbelow above habove, hbelow _ List.prefix_rfl⟩

/-- Every step leads to where directories are above, and to a directory unless it takes a name. -/
theorem Reached.enter {piece : Text} (h : t.Reached loc) (henter : t.enter loc piece = .ok next) :
    t.Reached next ∧
      (t.get? next = some .directory ∨ IsName piece ∧ next = loc ++ [piece]) := by
  have hloc := get?_of_enter henter
  rcases enter_cases henter with ⟨hname, rfl⟩ | ⟨-, rfl | rfl⟩
  · exact ⟨h.append hloc piece, .inr ⟨hname, rfl⟩⟩
  · exact ⟨h, .inl hloc⟩
  · exact ⟨(h.up hloc).1, .inl (h.up hloc).2⟩

theorem Reached.follow (h : t.Reached loc) (hf : t.follow loc pieces = .ok next) :
    t.Reached next := by
  induction pieces generalizing loc with
  | nil =>
    cases hf
    exact h
  | cons piece rest ih =>
    rw [FileTree.follow, bind_eq_ok_iff] at hf
    obtain ⟨mid, henter, hrest⟩ := hf
    exact ih (h.enter henter).1 hrest

theorem reached_of_isAbove (h : t.isAbove loc = true) : t.Reached loc := by
  intro above habove _
  exact get?_of_isAbove (isAbove_iff.2 (habove.trans (isAbove_iff.1 h)))

/-- The path of a file ends with the name that the file has in its directory. -/
theorem pieces_of_file {c : Content} (h : t.locate p = .ok loc)
    (hfile : t.get? loc = some (.file c)) :
    ∃ init above name, p.pieces = init ++ [name] ∧ IsName name ∧ loc = above ++ [name] := by
  obtain ⟨-, -, hfollow⟩ := locate_eq_ok_iff.1 h
  rcases List.eq_nil_or_concat p.pieces with hnil | ⟨init, name, hpieces⟩
  · exact absurd hnil (List.splitOn_ne_nil '/' p)
  · rw [List.concat_eq_append] at hpieces
    rw [hpieces] at hfollow
    obtain ⟨above, hinit, henter⟩ := follow_concat_eq_ok_iff.1 hfollow
    have habove := (reached_of_isAbove (isAbove_origin t p)).follow hinit
    rcases (habove.enter henter).2 with hdirectory | ⟨hname, hloc⟩
    · rw [hfile] at hdirectory
      cases hdirectory
    · exact ⟨init, above, name, hpieces, hname, hloc⟩

/-! ## Up and down -/

theorem enter_name {name : Text} (hloc : t.get? loc = some .directory) (hname : IsName name)
    (hsize : name.byteSize ≤ maxNameSize) : t.enter loc name = .ok (loc ++ [name]) := by
  rw [IsName, Path.Component.ofPiece?] at hname
  split at hname
  case isTrue => cases hname
  case isFalse hstay =>
    split at hname
    case isTrue => cases hname
    case isFalse hup =>
      rw [enter, hloc]
      dsimp only
      rw [if_neg hstay, if_neg hup, if_neg (Nat.not_lt.2 hsize)]

/-- Names lead down. -/
theorem follow_names {names : List Text} (h : t.Reached (loc ++ names))
    (hnames : ∀ name ∈ names, IsName name ∧ name.byteSize ≤ maxNameSize) :
    t.follow loc names = .ok (loc ++ names) := by
  induction names generalizing loc with
  | nil => rw [List.append_nil, follow]
  | cons name rest ih =>
    obtain ⟨hname, hsize⟩ := hnames name List.mem_cons_self
    have hloc : t.get? loc = some .directory := h loc (List.prefix_append loc _) (by simp)
    rw [List.append_cons] at h ⊢
    rw [follow, enter_name hloc hname hsize]
    exact ih h fun other hother ↦ hnames other (List.mem_cons_of_mem name hother)

/-- As many dots as there are names lead up. -/
theorem follow_dots {names : List Text} (h : t.Reached (loc ++ names))
    (hdirectory : t.get? (loc ++ names) = some .directory) (rest : List Text) :
    t.follow (loc ++ names) (List.replicate names.length Path.dotDot ++ rest) =
      t.follow loc rest := by
  induction names using List.reverseRecOn with
  | nil => rw [List.append_nil, List.length_nil, List.replicate_zero, List.nil_append]
  | append_singleton names last ih =>
    have hup : (loc ++ (names ++ [last])).up = loc ++ names := by
      rw [Location.up, ← List.append_assoc, List.dropLast_concat]
    obtain ⟨habove, hdirectory'⟩ := h.up hdirectory
    rw [hup] at habove hdirectory'
    have henter : t.enter (loc ++ (names ++ [last])) Path.dotDot = .ok (loc ++ names) := by
      rw [enter, hdirectory, ← hup]
      rfl
    rw [List.length_append, List.length_singleton, List.replicate_succ, List.cons_append, follow,
      henter]
    exact ih habove hdirectory'

/-- From a directory, the steps to a location lead there. -/
theorem follow_stepsTo {start goal : Location} (hstart : t.Reached start)
    (hdirectory : t.get? start = some .directory) (hgoal : t.Reached goal)
    (hnames : ∀ name ∈ goal, IsName name ∧ name.byteSize ≤ maxNameSize) :
    t.follow start (start.stepsTo goal) = .ok goal := by
  -- What the two have in common goes over to `above`.
  suffices hparts : ∀ above : Location, t.Reached (above ++ start) →
      t.get? (above ++ start) = some .directory → t.Reached (above ++ goal) →
      t.follow (above ++ start) (start.stepsTo goal) = .ok (above ++ goal) from
    hparts [] hstart hdirectory hgoal
  clear hstart hdirectory hgoal
  fun_induction Location.stepsTo start goal with
  | case1 below here goal ih =>
    intro above hstart hdirectory hgoal
    rw [List.append_cons] at hstart hdirectory hgoal ⊢
    rw [List.append_cons above here goal]
    exact ih (fun name hname ↦ hnames name (List.mem_cons_of_mem here hname)) _ hstart hdirectory
      hgoal
  | case2 here below there goal hne =>
    intro above hstart hdirectory hgoal
    have hup := follow_dots hstart hdirectory (there :: goal)
    rw [List.length_cons] at hup
    rw [hup]
    exact follow_names hgoal hnames
  | case3 start goal =>
    intro above hstart hdirectory hgoal
    rw [follow_dots hstart hdirectory]
    exact follow_names hgoal hnames

end FileTree

end DocComment
