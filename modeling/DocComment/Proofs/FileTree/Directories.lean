import DocComment.Proofs.FileTree.Follow
import Mathlib.Tactic.ByContra

/-!
# Making directories

An attempt to make a directory makes those above it that are missing, and may fail with some of them
made.  Successful or not, it adds directories and nothing else: each of them stands where nothing
stood, and where an initial part of the path leads (`adds_tryDirectories`).  So every entry is kept
(`keeps_makeDirectories`), and no file has changed.

The directories are made along the steps of the path, without its empty pieces and inner dots.  An
initial part of the steps leads where an initial part of the path does, since the pieces that are
left out stay in a directory (`exists_prefix_of_steps`).
-/

namespace DocComment.FileTree

variable {t t' : FileTree} {origin loc next : Location} {pieces : List Text} {p : Path}
variable {allowed : List Text → Prop}

/-! ## Trees with more directories -/

/-- The second tree is the first one with further directories.  They stand where there was nothing,
and where pieces of the allowed ones lead from the origin. -/
structure AddsDirectories (origin : Location) (allowed : List Text → Prop) (t t' : FileTree) :
    Prop where
  workingDirectory : t'.workingDirectory = t.workingDirectory
  added : ∀ loc, t'.get? loc ≠ t.get? loc →
    t.get? loc = none ∧ t'.get? loc = some .directory ∧
      ∃ pieces, allowed pieces ∧ t'.follow origin pieces = .ok loc

namespace AddsDirectories

theorem refl (origin : Location) (allowed : List Text → Prop) (t : FileTree) :
    AddsDirectories origin allowed t t :=
  ⟨rfl, fun _ hne ↦ absurd rfl hne⟩

theorem keeps (h : AddsDirectories origin allowed t t') : Keeps t t' := by
  refine ⟨h.workingDirectory, fun loc e hloc ↦ ?_⟩
  by_contra hne
  rw [← hloc] at hne
  rw [(h.added loc hne).1] at hloc
  cases hloc

theorem trans {t'' : FileTree} (h : AddsDirectories origin allowed t t')
    (h' : AddsDirectories origin allowed t' t'') : AddsDirectories origin allowed t t'' := by
  refine ⟨h'.workingDirectory.trans h.workingDirectory, fun loc hne ↦ ?_⟩
  by_cases hlater : t''.get? loc = t'.get? loc
  · rw [hlater] at hne
    obtain ⟨hnone, hdirectory, pieces, hallowed, hfollow⟩ := h.added loc hne
    exact ⟨hnone, hlater.trans hdirectory, pieces, hallowed,
      h'.keeps.hasDirectories.follow hfollow⟩
  · obtain ⟨hnone, hdirectory, hpieces⟩ := h'.added loc hlater
    refine ⟨?_, hdirectory, hpieces⟩
    by_contra hsome
    rw [← hnone] at hsome
    rw [(h.added loc (Ne.symm hsome)).2.1] at hnone
    cases hnone

/-- Pieces may be replaced by others that lead to the same place. -/
theorem imp {allowed' : List Text → Prop} (h : AddsDirectories origin allowed t t')
    (himp : ∀ pieces loc, allowed pieces → t'.follow origin pieces = .ok loc →
      ∃ pieces', allowed' pieces' ∧ t'.follow origin pieces' = .ok loc) :
    AddsDirectories origin allowed' t t' := by
  refine ⟨h.workingDirectory, fun loc hne ↦ ?_⟩
  obtain ⟨hnone, hdirectory, pieces, hallowed, hfollow⟩ := h.added loc hne
  exact ⟨hnone, hdirectory, himp pieces loc hallowed hfollow⟩

theorem mono {allowed' : List Text → Prop} (h : AddsDirectories origin allowed t t')
    (himp : ∀ pieces, allowed pieces → allowed' pieces) : AddsDirectories origin allowed' t t' :=
  h.imp fun pieces _ hallowed hfollow ↦ ⟨pieces, himp pieces hallowed, hfollow⟩

/-- The files are those of the first tree. -/
theorem get?_eq_file_iff (h : AddsDirectories origin allowed t t') {c : Content} :
    t'.get? loc = some (.file c) ↔ t.get? loc = some (.file c) := by
  constructor
  · intro hfile
    by_contra hne
    rw [← hfile] at hne
    rw [(h.added loc (Ne.symm hne)).2.1] at hfile
    cases hfile
  · exact h.keeps.entry loc (.file c)

end AddsDirectories

/-! ## Attempts -/

/-- A single directory is made where all of its pieces lead. -/
theorem adds_makeDirectory (h : t.makeDirectory origin pieces = .ok t') :
    AddsDirectories origin (· = pieces) t t' := by
  rw [makeDirectory, bind_eq_ok_iff] at h
  obtain ⟨above, hfollow, h⟩ := h
  obtain ⟨loc, henter, h⟩ := bind_eq_ok_iff.1 h
  split at h
  case isTrue => cases h
  case isFalse hnew =>
    cases h
    rw [not_or, not_or, Option.not_isSome_iff_eq_none] at hnew
    obtain ⟨hdot, -, hnone⟩ := hnew
    have hpieces : pieces.dropLast ++ [pieces.getLastD Path.dot] = pieces := by
      rcases List.eq_nil_or_concat pieces with rfl | ⟨init, last, rfl⟩
      · exact absurd rfl hdot
      · simp
    have hloc : t.follow origin pieces = .ok loc := by
      rw [← hpieces]
      exact follow_concat_eq_ok_iff.2 ⟨above, hfollow, henter⟩
    refine ⟨rfl, fun other hne ↦ ?_⟩
    obtain rfl : other = loc := by
      by_contra hother
      exact hne (get?_put_of_ne t .directory hother)
    have habove : t.isAbove other = false := by
      refine isAbove_of_get?_ne fun hdirectory ↦ ?_
      rw [hnone] at hdirectory
      cases hdirectory
    exact ⟨hnone, get?_put_self t .directory habove, pieces, rfl,
      (Keeps.put hnone .directory).hasDirectories.follow hloc⟩

theorem adds_orExisting {made : Except FileError FileTree}
    (hmade : ∀ t', made = .ok t' → AddsDirectories origin allowed t t') :
    AddsDirectories origin allowed t (t.orExisting origin pieces made).1 := by
  cases made with
  | ok t' => exact hmade t' rfl
  | error e => exact .refl origin allowed t

/-- What is added is added above, or is the directory itself. -/
theorem adds_makeBelow {above : FileTree × Option FileError} (hpieces : allowed pieces)
    (habove : AddsDirectories origin allowed t above.1) :
    AddsDirectories origin allowed t (t.makeBelow origin pieces above).1 := by
  have hmade : ∀ s s', makeDirectory s origin pieces = .ok s' →
      AddsDirectories origin allowed s s' :=
    fun s s' h ↦ (adds_makeDirectory h).mono fun _ heq ↦ heq ▸ hpieces
  rw [makeBelow.eq_def]
  split
  case h_1 =>
    split
    case h_1 t' => exact habove.trans (adds_orExisting (hmade t'))
    case h_2 => exact habove
  case h_2 => exact adds_orExisting (hmade t)

theorem adds_makeAll (t : FileTree) (origin : Location) (steps : List Text) :
    AddsDirectories origin (· <+: steps.reverse) t (t.makeAll origin steps).1 := by
  induction steps with
  | nil => exact .refl origin _ t
  | cons last above ih =>
    refine adds_makeBelow List.prefix_rfl (ih.mono fun pieces hpieces ↦ ?_)
    rw [List.reverse_cons]
    exact hpieces.trans (List.prefix_append _ _)

/-! ## Steps and pieces -/

/-- A piece that is no step stays in its directory. -/
theorem enter_of_noStep {piece : Text} (hstep : Path.Component.ofPiece? piece = none)
    (hloc : t.get? loc = some .directory) : t.enter loc piece = .ok loc := by
  have hstay : piece = [] ∨ piece = Path.dot := by
    by_contra hname
    rw [Path.Component.ofPiece?, if_neg hname] at hstep
    split at hstep <;> cases hstep
  rw [enter, hloc]
  exact if_pos hstay

/-- An initial part of the steps of a path leads where an initial part of its pieces leads. -/
theorem exists_prefix_of_steps {start : List Text}
    (hstart : start <+: pieces.filter fun piece ↦ (Path.Component.ofPiece? piece).isSome)
    (h : t.follow loc start = .ok next) : ∃ pre, pre <+: pieces ∧ t.follow loc pre = .ok next := by
  induction pieces generalizing loc start with
  | nil => exact ⟨start, hstart, h⟩
  | cons piece rest ih =>
    cases start with
    | nil => exact ⟨[], List.nil_prefix, h⟩
    | cons first more =>
      rw [follow, bind_eq_ok_iff] at h
      obtain ⟨mid, henter, hmore⟩ := h
      cases hstep : Path.Component.ofPiece? piece with
      | some component =>
        rw [List.filter_cons_of_pos (by rw [hstep]; rfl), List.cons_prefix_cons] at hstart
        obtain ⟨rfl, hprefix⟩ := hstart
        obtain ⟨pre, hpre, hfollow⟩ := ih hprefix hmore
        refine ⟨first :: pre, List.cons_prefix_cons.2 ⟨rfl, hpre⟩, ?_⟩
        rw [follow, henter]
        exact hfollow
      | none =>
        rw [List.filter_cons_of_neg (by rw [hstep]; exact Bool.false_ne_true)] at hstart
        have hall : t.follow loc (first :: more) = .ok next := by
          rw [follow, henter]
          exact hmore
        obtain ⟨pre, hpre, hfollow⟩ := ih hstart hall
        refine ⟨piece :: pre, List.cons_prefix_cons.2 ⟨rfl, hpre⟩, ?_⟩
        rw [follow, enter_of_noStep hstep (get?_of_enter henter)]
        exact hfollow

/-- The dot that a path may begin with is a step of it that stays. -/
theorem exists_prefix_of_stepsUp {start : List Text} (hstart : start <+: (stepsUp p).reverse)
    (hloc : t.get? loc = some .directory) (h : t.follow loc start = .ok next) :
    ∃ pre, pre <+: p.pieces ∧ t.follow loc pre = .ok next := by
  rw [stepsUp, List.reverse_reverse] at hstart
  split at hstart
  case isTrue =>
    cases start with
    | nil => exact ⟨[], List.nil_prefix, h⟩
    | cons first more =>
      rw [List.singleton_append, List.cons_prefix_cons] at hstart
      obtain ⟨rfl, hmore⟩ := hstart
      refine exists_prefix_of_steps hmore ?_
      rwa [follow, enter_of_noStep rfl hloc] at h
  case isFalse => exact exists_prefix_of_steps hstart h

theorem trimmedPieces_prefix_pieces (p : Path) : trimmedPieces p <+: p.pieces := by
  rw [trimmedPieces, ← List.reverse_suffix, List.reverse_reverse]
  exact List.dropWhile_suffix _

/-! ## A directory and those above it -/

/-- An attempt to make the directory of a path adds directories on the path, and nothing else. -/
theorem adds_tryDirectories (t : FileTree) (p : Path) :
    AddsDirectories (t.origin p) (· <+: p.pieces) t (t.tryDirectories p).1 := by
  rw [tryDirectories]
  split
  case isTrue => exact .refl _ _ t
  case isFalse =>
    have hall := adds_makeAll t (t.origin p) (stepsUp p).tail
    refine adds_makeBelow (trimmedPieces_prefix_pieces p) (hall.imp ?_)
    intro pieces loc hpieces
    refine exists_prefix_of_stepsUp (hpieces.trans ?_) ?_
    · rw [List.reverse_prefix]
      exact List.tail_suffix _
    · exact hall.keeps.entry _ .directory (get?_of_isAbove (isAbove_origin t p))

theorem tryDirectories_of_makeDirectories (h : t.makeDirectories p = .ok t') :
    t.tryDirectories p = (t', none) := by
  rw [makeDirectories] at h
  split at h
  case h_1 heq =>
    cases h
    exact heq
  case h_2 => cases h

theorem adds_makeDirectories (h : t.makeDirectories p = .ok t') :
    AddsDirectories (t.origin p) (· <+: p.pieces) t t' := by
  have hadds := adds_tryDirectories t p
  rwa [tryDirectories_of_makeDirectories h] at hadds

/-- Making a directory and those above it changes no entry. -/
theorem keeps_makeDirectories (h : t.makeDirectories p = .ok t') : Keeps t t' :=
  (adds_makeDirectories h).keeps

end DocComment.FileTree
